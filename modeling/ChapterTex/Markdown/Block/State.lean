import ChapterTex.Markdown.Block.Line
import ChapterTex.Markdown.Destination
import ChapterTex.Markdown.Token

/-!
The state of reading the blocks of a document: the lines as the innermost block sees them, the line
of reading, and the tokens and link definitions so far.
-/
namespace ChapterTex.Markdown.Block

structure State where
  src : Source
  lines : Array Line
  /-- The line before which paragraphs end. -/
  limit : Nat
  /-- The column at which the content of the innermost list item starts. -/
  margin : Int := 0
  /-- The column at which the innermost list starts. -/
  listMargin : Option Int := none
  /-- The line of reading. -/
  line : Nat := 0
  tokens : Array Token := #[]
  definitions : Record Definition := []

namespace State

def ofSource (src : Source) : State :=
  let lines := (linesFrom src (src.size + 1) 0).toArray
  { src, lines, limit := lines.size }

/-- A line by its number. There is an empty one behind the last. -/
def lineAt (st : State) (i : Nat) : Line :=
  st.lines.getD i { start := st.src.size, stop := st.src.size }

def isEmptyAt (st : State) (i : Nat) : Bool := (st.lineAt i).isEmpty

/-- The number of columns by which a line is indented beyond the margin. -/
def indentAt (st : State) (i : Nat) : Int := (st.lineAt i).indent - st.margin

/-- Whether a line is left of the margin, so that it ends the block that it would be in. -/
def isOutside (st : State) (i : Nat) : Bool := decide (st.indentAt i < 0)

def isCodeAt (st : State) (i : Nat) : Bool := decide (4 ≤ st.indentAt i)

def textAt (st : State) (i : Nat) : List Char := (st.lineAt i).text st.src

def firstAt? (st : State) (i : Nat) : Option Char := st.src[(st.lineAt i).textStart]?

def skipEmpty (st : State) : Nat → Nat → Nat
  | 0, i => i
  | count + 1, i => if st.isEmptyAt i then st.skipEmpty count (i + 1) else i

/-- The lines from one number to another without their first columns. Every line keeps its line end,
but the last one only if `whole` is set. -/
def content (st : State) (start stop : Nat) (columns : Int) (whole : Bool) : List Char :=
  (List.range (stop - start)).flatMap fun k =>
    let l := st.lineAt (start + k)
    l.outdented st.src columns
      (if whole || decide (start + k + 1 < stop) then l.stop + 1 else l.stop)

def push (st : State) (t : Token) : State := { st with tokens := st.tokens.push t }

def pushAll (st : State) (ts : List Token) : State := ts.foldl push st

def goto (st : State) (line : Nat) : State := { st with line }

end State

/-- A rule for one sort of block. It reads the block that starts at the line of reading and ends
before the given line, if there is one. -/
abbrev Rule := Nat → State → Option State

end ChapterTex.Markdown.Block
