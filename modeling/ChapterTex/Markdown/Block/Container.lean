import ChapterTex.Markdown.Block.Leaf

/-!
Blocks that hold other blocks: quotations and lists. What they hold is read with the lines as they
look behind the markers.
-/
namespace ChapterTex.Markdown.Block

def State.setLine (st : State) (i : Nat) (l : Line) : State :=
  { st with lines := st.lines.setIfInBounds i l }

/-- A line of a quotation behind its marker and one optional blank. A tab that is wider than the
blank leaves the rest of its columns. -/
def behindQuoteMark (src : Source) (l : Line) : Line :=
  let start := l.textStart + 1
  let column := l.indent + 1
  let isBlank := src.test start isSpace
  let wide := src.has start '\t' && (l.bias + column) % 4 != 3
  let (start, column) := if isBlank && !wide then (start + 1, column + 1) else (start, column)
  let (i, finish) :=
    overBlanks src (if wide then l.bias + 1 else l.bias) (l.stop - start) start column
  { start, stop := l.stop, shift := i - start, indent := finish - column,
    bias := l.indent + 1 + if isBlank then 1 else 0 }

/-- The line behind a quotation that goes on at a line, and the state with its lines behind their
markers. A line without a marker goes on with a paragraph, unless it starts a block. `lastEmpty`
tells that nothing stands in the line before. -/
def quoteEnd (stop : Nat) : Nat → Nat → Bool → State → State × Nat
  | 0, i, _, st => (st, i)
  | count + 1, i, lastEmpty, st =>
    let l := st.lineAt i
    if stop ≤ i || l.isEmpty then (st, i)
    else if st.firstAt? i == some '>' && !st.isOutside i then
      let inner := behindQuoteMark st.src l
      quoteEnd stop count (i + 1) inner.isEmpty (st.setLine i inner)
    else if lastEmpty then (st, i)
    else if interrupts .container stop st i then
      (({ st with limit := i } : State).setLine i { l with indent := l.indent - st.margin }, i)
    else quoteEnd stop count (i + 1) false (st.setLine i { l with indent := -1 })

/-- A quotation. `within` reads blocks before a line. -/
def quote? (within : Nat → State → State) : Rule := fun stop st =>
  if !isQuoteAt st st.line then none
  else
    let first := behindQuoteMark st.src (st.lineAt st.line)
    let (inner, finish) := quoteEnd stop (stop - st.line) (st.line + 1) first.isEmpty
      (st.setLine st.line first)
    let inner := inner.push (Token.opening "blockquote_open" "blockquote")
    let inner := within finish { inner with margin := 0 }
    let st := { inner with lines := st.lines, limit := st.limit, margin := st.margin }
    some (st.push (Token.closing "blockquote_close" "blockquote"))

/-- The state inside a list item at the line of reading, and whether the line of the marker is empty
behind it. The content starts one to four columns behind the marker. -/
def itemState (m : Marker) (st : State) : State × Bool :=
  let l := st.lineAt st.line
  let behind := l.textStart + m.length
  let column := l.indent + m.length
  let (start, finish) := overBlanks st.src l.bias (l.stop - behind) behind column
  let isEmpty := decide (l.stop ≤ start)
  let width := if isEmpty || decide (4 < finish - column) then 1 else finish - column
  let inner := { st with margin := column + width, listMargin := some st.margin }
  (inner.setLine st.line { l with shift := start - l.start, indent := finish }, isEmpty)

/-- Reads one list item. If its first two lines are empty it has no content. -/
def readItem (within : Nat → State → State) (stop : Nat) (m : Marker) (st : State) : State :=
  let (inner, isEmpty) := itemState m st
  let inner :=
    inner.push { Token.opening "list_item_open" "li" with info := String.ofList m.digits }
  let inner :=
    if isEmpty && inner.isEmptyAt (inner.line + 1) then inner.goto (min (inner.line + 2) stop)
    else within stop inner
  let st := { inner with lines := st.lines, margin := st.margin, listMargin := st.listMargin }
  st.push (Token.closing "list_item_close" "li")

/-- Reads the items of a list whose next marker is given. -/
def readItems (within : Nat → State → State) (stop : Nat) : Nat → Marker → State → State
  | 0, _, st => st
  | count + 1, m, st =>
    let st := readItem within stop m st
    if stop ≤ st.line || st.isOutside st.line || st.isCodeAt st.line ||
        interrupts .list stop st st.line then
      st
    else
      match (marker? (st.textAt st.line)).filter m.suits with
      | some next => readItems within stop count next st
      | none => st

/-- A list. The number of an ordered list is kept if it is not one. -/
def list? (within : Nat → State → State) : Rule := fun stop st =>
  (listAt? st false st.line).map fun m =>
    let (kind, tag) := if m.isOrdered then ("ordered_list", "ol") else ("bullet_list", "ul")
    let attrs := if m.isOrdered && m.number != 1 then [("start", Datum.int m.number)] else []
    let st := st.push { Token.opening (kind ++ "_open") tag with attrs }
    (readItems within stop (stop - st.line) m st).push (Token.closing (kind ++ "_close") tag)

end ChapterTex.Markdown.Block
