import ChapterTex.Markdown.Block.State
import ChapterTex.Markdown.Html
import ChapterTex.Text.Pieces

/-!
How blocks start, and which of them end a block before them without an empty line in between.
-/
namespace ChapterTex.Markdown.Block

/-- A thematic break: at least three of the same marker, and blanks. -/
def isBreakAt (st : State) (i : Nat) : Bool :=
  !st.isCodeAt i &&
    match st.textAt i with
    | c :: rest =>
      (c == '*' || c == '-' || c == '_') && rest.all (fun d => d == c || isSpace d) &&
        decide (2 ≤ rest.count c)
    | [] => false

def isQuoteAt (st : State) (i : Nat) : Bool := !st.isCodeAt i && st.firstAt? i == some '>'

/-- The level of a heading, and the text behind its marks. -/
def heading? (s : List Char) : Option (Nat × List Char) :=
  let level := (s.takeWhile (· == '#')).length
  let rest := s.dropWhile (· == '#')
  if decide (1 ≤ level) && decide (level ≤ 6) && rest.head?.all isSpace then some (level, rest)
  else none

def headingAt? (st : State) (i : Nat) : Option (Nat × List Char) :=
  if st.isCodeAt i then none else heading? (st.textAt i)

structure Fence where
  marker : Char
  length : Nat
  info : List Char
deriving Repr, DecidableEq

def fence? (s : List Char) : Option Fence :=
  match s with
  | [] => none
  | marker :: _ =>
    let length := (s.takeWhile (· == marker)).length
    let info := s.dropWhile (· == marker)
    if (marker == '~' || marker == '`') && decide (3 ≤ length) &&
        !(marker == '`' && info.contains '`') then
      some { marker, length, info }
    else none

def fenceAt? (st : State) (i : Nat) : Option Fence :=
  if st.isCodeAt i then none else fence? (st.textAt i)

/-- The marker of a list item: digits, which bullets do not have, and one more character. -/
structure Marker where
  digits : List Char
  mark : Char
  /-- Whether nothing follows the marker. -/
  isAlone : Bool
deriving Repr, DecidableEq

namespace Marker

def isOrdered (m : Marker) : Bool := !m.digits.isEmpty

def length (m : Marker) : Nat := m.digits.length + 1

def number (m : Marker) : Nat := Json.decimalNumber m.digits

def suits (m n : Marker) : Bool := m.isOrdered == n.isOrdered && m.mark == n.mark

end Marker

def marker? (s : List Char) : Option Marker :=
  let digits := s.takeWhile Char.isDigit
  match s.dropWhile Char.isDigit with
  | [] => none
  | mark :: rest =>
    let isMark := if digits.isEmpty then mark == '*' || mark == '-' || mark == '+'
      else mark == ')' || mark == '.'
    if isMark && decide (digits.length ≤ 9) && rest.head?.all isSpace then
      some { digits, mark, isAlone := rest.all isSpace }
    else none

/-- The marker of a list that starts at a line. In a paragraph only an item with text starts a list,
and of ordered lists only those that start at one. -/
def listAt? (st : State) (inParagraph : Bool) (i : Nat) : Option Marker :=
  if st.isCodeAt i then none
  else if st.isOutside i &&
      st.listMargin.any (fun m => decide (4 ≤ (st.lineAt i).indent - m)) then none
  else
    (marker? (st.textAt i)).filter fun m =>
      !(inParagraph && !st.isOutside i) || !(m.isAlone || (m.isOrdered && m.number != 1))

def htmlAt? (st : State) (i : Nat) : Option Html.BlockStart :=
  if st.isCodeAt i then none else Html.blockStart? (st.textAt i)

inductive Alignment where
  | left
  | right
  | center
  | none
deriving Repr, DecidableEq

def isColumnChar (c : Char) : Bool := c == '|' || c == '-' || c == ':'

def alignment? (s : List Char) : Option Alignment :=
  let starts := s.head? == some ':'
  let ends := s.getLast? == some ':'
  let body := if starts then s.drop 1 else s
  let dashes := if ends then body.dropLast else body
  if dashes.isEmpty || !dashes.all (· == '-') then Option.none
  else some (if starts then if ends then .center else .left else if ends then .right else .none)

def withoutEmptyEnds (cells : List (List Char)) : List (List Char) :=
  let cells := if cells.head? == some [] then cells.drop 1 else cells
  if cells.getLast? == some [] then cells.dropLast else cells

def alignments? (row : List Char) : Option (List Alignment) :=
  match row with
  | c :: d :: rest =>
    if isColumnChar c && (isColumnChar d || (isSpace d && c != '-')) &&
        rest.all (fun e => isColumnChar e || isSpace e) then
      (withoutEmptyEnds ((Text.pieces '|' row).map Text.trim)).mapM alignment?
    else Option.none
  | _ => Option.none

/-- The cells of a row. A backslash before a bar makes the bar part of its cell. -/
def cellsFrom : List Char → List (List Char)
  | [] => [[]]
  | '\\' :: '|' :: rest => before '|' (cellsFrom rest)
  | c :: rest => if c == '|' then [] :: cellsFrom rest else before c (cellsFrom rest)
where
  before (c : Char) : List (List Char) → List (List Char)
    | [] => [[c]]
    | w :: ws => (c :: w) :: ws

def cells (row : List Char) : List (List Char) := withoutEmptyEnds (cellsFrom (Text.trim row))

structure TableHead where
  alignments : List Alignment
  header : List (List Char)

/-- A table starts with a header and a delimiter row of as many columns. -/
def tableAt? (stop : Nat) (st : State) (i : Nat) : Option TableHead :=
  if decide (stop < i + 2) || st.isOutside (i + 1) || st.isCodeAt (i + 1) || st.isCodeAt i then none
  else do
    let alignments ← alignments? (st.textAt (i + 1))
    let header := cells (st.textAt i)
    guard ((st.textAt i).contains '|' && !header.isEmpty && header.length == alignments.length)
    return { alignments, header }

inductive Open where
  | paragraph
  | definition
  /-- A quotation, or the rows of a table. -/
  | container
  | list
deriving Repr, DecidableEq

def interrupts (o : Open) (stop : Nat) (st : State) (i : Nat) : Bool :=
  (fenceAt? st i).isSome || isQuoteAt st i || isBreakAt st i ||
    (o != .list &&
      ((listAt? st (o == .paragraph) i).isSome || (htmlAt? st i).any (·.interrupts) ||
        (headingAt? st i).isSome)) ||
    ((o == .paragraph || o == .definition) && (tableAt? stop st i).isSome)

end ChapterTex.Markdown.Block
