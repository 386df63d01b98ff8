import ChapterTex.Markdown.Source

/-!
The lines of a document as its blocks see them. Inside a quotation or a list item a line starts
behind the marker, and its indentation is counted from there; tab stops stay where they are in the
source.
-/
namespace ChapterTex.Markdown

/-- A line from `start` to `stop`, of which the first `shift` characters are blanks that take
`indent` columns. Column `bias` of the enclosing block is column zero of the line. -/
structure Line where
  start : Nat
  stop : Nat
  shift : Nat := 0
  indent : Int := 0
  bias : Int := 0
deriving Repr, DecidableEq, Inhabited

namespace Line

def textStart (l : Line) : Nat := l.start + l.shift

def isEmpty (l : Line) : Bool := decide (l.stop ≤ l.textStart)

def text (src : Source) (l : Line) : List Char := src.slice l.textStart l.stop

end Line

/-- The columns from a blank to the character after it. Tab stops are four columns apart. -/
def blankWidth (c : Char) (column : Int) : Int := if c == '\t' then 4 - column % 4 else 1

/-- Goes over at most `count` blanks: the index behind them, and the column there. -/
def overBlanks (src : Source) (bias : Int) : Nat → Nat → Int → Nat × Int
  | 0, i, column => (i, column)
  | count + 1, i, column =>
    match src[i]? with
    | some c =>
      if isSpace c then overBlanks src bias count (i + 1) (column + blankWidth c (column + bias))
      else (i, column)
    | none => (i, column)

def Line.ofRange (src : Source) (start stop : Nat) : Line :=
  let (i, indent) := overBlanks src 0 (stop - start) start 0
  { start, stop, shift := i - start, indent }

/-- The lines from an index on. Blanks at the end of a source without a line end are no line. `fuel`
is larger than the number of characters left. -/
def linesFrom (src : Source) : Nat → Nat → List Line
  | 0, _ => []
  | fuel + 1, start =>
    if src.size ≤ start then []
    else
      let stop := src.skipAll (· != '\n') start
      let line := Line.ofRange src start stop
      if stop == src.size && line.isEmpty then [] else line :: linesFrom src fuel (stop + 1)

/-- The index at which the content of a line starts when `columns` columns are taken off it, and the
column there. A marker that counts as indentation takes one column for each character. -/
def takeColumns (src : Source) (l : Line) (columns : Int) : Nat → Nat → Int → Nat × Int
  | 0, i, column => (i, column)
  | count + 1, i, column =>
    if columns ≤ column then (i, column)
    else
      match src[i]? with
      | some c =>
        if isSpace c then
          takeColumns src l columns count (i + 1) (column + blankWidth c (column + l.bias))
        else if i < l.textStart then takeColumns src l columns count (i + 1) (column + 1)
        else (i, column)
      | none => (i, column)

/-- A line up to an index without its first columns. Of a tab that reaches beyond them the rest
remains, as spaces. -/
def Line.outdented (src : Source) (columns : Int) (l : Line) (stop : Nat) : List Char :=
  let (i, column) := takeColumns src l columns (stop - l.start) l.start 0
  List.replicate (column - columns).toNat ' ' ++ src.slice i stop

end ChapterTex.Markdown
