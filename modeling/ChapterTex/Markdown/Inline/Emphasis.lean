import ChapterTex.Markdown.Inline.State
import ChapterTex.Text.Punctuation

/-!
Emphasis. Markers open or close by what stands on their two sides; then every closing marker is
paired with the nearest opening one that suits it, and pairs side by side make strong emphasis.
-/
namespace ChapterTex.Markdown.Inline

def isFlankBlank (c : Char) : Bool :=
  let n := c.toNat
  (decide (0x2000 ≤ n) && decide (n ≤ 0x200A)) ||
    [0x09, 0x0A, 0x0B, 0x0C, 0x0D, 0x20, 0xA0, 0x1680, 0x202F, 0x205F, 0x3000].contains n

structure Flanks where
  opens : Bool
  closes : Bool
  length : Nat

/-- The run of markers at an index. Inside a word only `split` markers open and close. -/
def flanks (st : State) (start : Nat) (marker : Char) (split : Bool) : Flanks :=
  let finish := st.src.skipWhile (· == marker) start st.stop
  let before := if start == 0 then ' ' else st.src[start - 1]?.getD ' '
  let after := if finish < st.stop then st.src[finish]?.getD ' ' else ' '
  let punctBefore := Text.isPunctuation before
  let punctAfter := Text.isPunctuation after
  let blankBefore := isFlankBlank before
  let blankAfter := isFlankBlank after
  let left := !(blankAfter || (punctAfter && !(blankBefore || punctBefore)))
  let right := !(blankBefore || (punctBefore && !(blankAfter || punctAfter)))
  { opens := left && (split || !right || punctBefore)
    closes := right && (split || !left || punctAfter)
    length := finish - start }

/-- Adds one token and one delimiter for each marker of a run. -/
def pushMarkers (marker : Char) (f : Flanks) : Nat → State → State
  | 0, st => st
  | count + 1, st =>
    let st := st.push (Token.text (String.singleton marker))
    pushMarkers marker f count
      { st with
        delimiters := st.delimiters.push
          { marker, length := f.length, token := st.tokens.size - 1, opens := f.opens,
            closes := f.closes } }

def emphasis? (silent : Bool) (st : State) : Option State :=
  match st.current? with
  | some marker =>
    if !silent && (marker == '_' || marker == '*') then
      let f := flanks st st.pos marker (marker == '*')
      some ((pushMarkers marker f f.length st).advance (st.pos + f.length))
    else none
  | none => none

/-- The markers while they are paired. `jumps` tells how many markers before one need not be looked
at, and `floors` below which place no opening marker suits a closing one of some sort. -/
structure Pairing where
  delimiters : Array Delimiter
  jumps : Array Nat := #[]
  floors : List ((Char × Bool × Nat) × Int) := []
  header : Nat := 0
  lastToken : Int := -2

namespace Pairing

def delimiter (p : Pairing) (i : Nat) : Delimiter := p.delimiters.getD i default

def jump (p : Pairing) (i : Int) : Int := if i < 0 then 0 else p.jumps.getD i.toNat 0

/-- Two runs that could also be used the other way do not match if their lengths add up to a
multiple of three, unless both lengths are multiples of three. -/
def isOddMatch (opener closer : Delimiter) : Bool :=
  (opener.closes || closer.opens) && (opener.length + closer.length) % 3 == 0 &&
    (opener.length % 3 != 0 || closer.length % 3 != 0)

/-- The nearest opening marker for a closing one, from a place down to a floor. -/
def findOpener (p : Pairing) (closer : Delimiter) (floor : Int) : Nat → Int → Option Nat
  | 0, _ => none
  | fuel + 1, i =>
    if i ≤ floor then none
    else
      let opener := p.delimiter i.toNat
      if opener.marker == closer.marker && opener.opens && opener.partner.isNone
          && !isOddMatch opener closer then
        some i.toNat
      else findOpener p closer floor fuel (i - (p.jump i + 1))

def step (p : Pairing) (i : Nat) : Pairing :=
  let closer := p.delimiter i
  let p := { p with jumps := p.jumps.push 0 }
  let adjacent :=
    (p.delimiter p.header).marker == closer.marker && p.lastToken == (closer.token : Int) - 1
  let p := { p with header := if adjacent then p.header else i, lastToken := closer.token }
  if !closer.closes then p
  else
    let sort := (closer.marker, closer.opens, closer.length % 3)
    let floor := (p.floors.lookup sort).getD (-1)
    let start := (p.header : Int) - p.jump p.header - 1
    match p.findOpener closer floor (i + 1) start with
    | none => if start == -1 then p else { p with floors := (sort, start) :: p.floors }
    | some o =>
      let skipped := if 0 < o && !(p.delimiter (o - 1)).opens then p.jumps.getD (o - 1) 0 + 1 else 0
      { p with
        jumps := (p.jumps.setIfInBounds i (i - o + skipped)).setIfInBounds o skipped
        delimiters := (p.delimiters.modify i fun d => { d with opens := false }).modify o
          fun d => { d with partner := some i, closes := false }
        lastToken := -2 }

end Pairing

def pair (delimiters : Array Delimiter) : Array Delimiter :=
  ((List.range delimiters.size).foldl Pairing.step { delimiters }).delimiters

/-- Whether the pair of a marker and the pair of the marker before it enclose the same text. -/
def isStrong (ds : Array Delimiter) (i finish : Nat) : Bool :=
  decide (0 < i) &&
    (let opener := ds.getD i default
     let before := ds.getD (i - 1) default
     let closer := ds.getD finish default
     let behind := ds.getD (finish + 1) default
     before.partner == some (finish + 1) && before.marker == opener.marker &&
      before.token + 1 == opener.token && behind.token == closer.token + 1)

/-- Makes tokens of the paired markers, from the last marker to the first. -/
def markEmphasis (ds : Array Delimiter) : Nat → Array Token → Array Token
  | 0, tokens => tokens
  | i + 1, tokens =>
    let opener := ds.getD i default
    match opener.partner with
    | none => markEmphasis ds i tokens
    | some finish =>
      let closer := ds.getD finish default
      let strong := isStrong ds i finish
      let tag := if strong then "strong" else "em"
      let tokens := tokens.modify opener.token fun _ => Token.opening (tag ++ "_open") tag
      let tokens := tokens.modify closer.token fun _ => Token.closing (tag ++ "_close") tag
      if strong then
        let erase (tokens : Array Token) (j : Nat) : Array Token :=
          tokens.modify (ds.getD j default).token fun t => { t with content := "" }
        match i with
        | 0 => tokens
        | j + 1 => markEmphasis ds j (erase (erase tokens j) (finish + 1))
      else markEmphasis ds i tokens

def mergeTexts : List Token → List Token
  | [] => []
  | t :: rest =>
    match mergeTexts rest with
    | u :: merged =>
      if t.isText && u.isText then { u with content := t.content ++ u.content } :: merged
      else t :: u :: merged
    | [] => [t]

def finish (st : State) : List Token :=
  let groups := st.delimiters :: st.closed
  let tokens := groups.foldl (fun tokens ds => markEmphasis (pair ds) ds.size tokens) st.tokens
  mergeTexts tokens.toList

end ChapterTex.Markdown.Inline
