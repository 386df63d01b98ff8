import ChapterTex.Markdown.Block.Leaf

/-!
Tables: a header, a row of marks that gives the alignment of the columns, and the rows of the body.
-/
namespace ChapterTex.Markdown.Block

/-- The number of cells that may be missing in the rows of a table. -/
def maxMissingCells : Int := 65536

def Alignment.attributes : Alignment → List (String × Datum)
  | left => [("style", .text "text-align:left")]
  | right => [("style", .text "text-align:right")]
  | center => [("style", .text "text-align:center")]
  | none => []

def cellTokens (tag : String) (alignment : Alignment) (content : List Char) : List Token :=
  [{ Token.opening (tag ++ "_open") tag with attrs := alignment.attributes },
    Token.inline (String.ofList (Text.trim content)), Token.closing (tag ++ "_close") tag]

def rowTokens (tag : String) (alignments : List Alignment) (row : List (List Char)) : List Token :=
  Token.opening "tr_open" "tr"
    :: alignments.zipIdx.flatMap (fun (a, k) => cellTokens tag a (row.getD k []))
    ++ [Token.closing "tr_close" "tr"]

def bodyRows (st : State) (stop : Nat) (alignments : List Alignment) :
    Nat → Int → Nat → List (List Token) × Nat
  | 0, _, i => ([], i)
  | count + 1, missing, i =>
    if stop ≤ i || st.isOutside i || interrupts .container stop st i ||
        (Text.trim (st.textAt i)).isEmpty || st.isCodeAt i then
      ([], i)
    else
      let row := cells (st.textAt i)
      let missing := missing + alignments.length - row.length
      if maxMissingCells < missing then ([], i)
      else
        let (rows, finish) := bodyRows st stop alignments count missing (i + 1)
        (rowTokens "td" alignments row :: rows, finish)

/-- A table. A table without rows has no body. -/
def table? : Rule := fun stop st =>
  (tableAt? stop st st.line).map fun head =>
    let (rows, finish) := bodyRows st stop head.alignments (stop - st.line) 0 (st.line + 2)
    let body := if rows.isEmpty then []
      else Token.opening "tbody_open" "tbody" :: rows.flatten
        ++ [Token.closing "tbody_close" "tbody"]
    (st.pushAll
      (Token.opening "table_open" "table" :: Token.opening "thead_open" "thead"
        :: rowTokens "th" head.alignments head.header
        ++ Token.closing "thead_close" "thead" :: body
        ++ [Token.closing "table_close" "table"])).goto finish

end ChapterTex.Markdown.Block
