import ChapterTex.Markdown.Block.Container
import ChapterTex.Markdown.Block.Definition
import ChapterTex.Markdown.Block.Table

/-!
Reading the blocks of a document. At every line that is not empty the first rule that applies is
taken. Blocks nest to a limited depth, beyond which nothing is read.
-/
namespace ChapterTex.Markdown.Block

/-- The depth to which blocks nest. A list counts as two, for itself and for its items. -/
def maxNesting : Nat := 20

/-- The rules in the order in which they are tried. `one` and `two` read blocks that are one and two
levels further down. -/
def rules (one two : Nat → State → State) : List Rule :=
  [table?, code?, attributes?, fenced?, quote? one, break?, list? two, definition?, html?, marked?,
    underlined?, paragraph?]

/-- Reads blocks up to a line, or up to one that is left of the margin. `fuel` is larger than the
number of lines. -/
def readLines (rules : List Rule) (stop : Nat) : Nat → State → State
  | 0, st => st
  | fuel + 1, st =>
    if stop ≤ st.line then st
    else
      let st := st.goto (st.skipEmpty (st.limit - st.line) st.line)
      if stop ≤ st.line || st.isOutside st.line then st
      else
        let st := (rules.findSome? fun rule => rule stop st).getD (st.goto stop)
        let st :=
          if decide (st.line < stop) && st.isEmptyAt st.line then st.goto (st.line + 1) else st
        readLines rules stop fuel st

/-- Reads blocks up to a line. `room` is the depth that is left; without any the lines are passed
over. -/
def readBlocks : Nat → Nat → State → State
  | 0, stop, st => readLines [] stop (st.lines.size + 1) st
  | 1, stop, st => readLines (rules (readBlocks 0) (readBlocks 0)) stop (st.lines.size + 1) st
  | room + 2, stop, st =>
    readLines (rules (readBlocks (room + 1)) (readBlocks room)) stop (st.lines.size + 1) st

def parse (src : Source) : List Token × Record Definition :=
  let st := State.ofSource src
  let st := readBlocks maxNesting st.limit st
  (st.tokens.toList, st.definitions)

end ChapterTex.Markdown.Block
