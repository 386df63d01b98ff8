import ChapterTex.Markdown.Block.Leaf

/-!
Link definitions: a label in brackets, a colon, an address, and maybe a title. They may extend over
several lines, and leave no tokens.
-/
namespace ChapterTex.Markdown.Block

/-- The text of the lines from a number on that can belong to a definition. -/
def definitionLines (st : State) : Nat → Nat → List Char
  | 0, _ => []
  | count + 1, i =>
    if st.limit ≤ i || st.isEmptyAt i ||
        (!st.isCodeAt i && decide (0 ≤ (st.lineAt i).indent) &&
          interrupts .definition st.limit st i) then
      []
    else
      let l := st.lineAt i
      st.src.slice l.textStart (l.stop + 1) ++ definitionLines st count (i + 1)

def definitionLabelEnd? (s : Source) : Nat → Nat → Option Nat
  | 0, _ => none
  | fuel + 1, i =>
    match s[i]? with
    | none => none
    | some '[' => none
    | some ']' => some i
    | some '\\' => definitionLabelEnd? s fuel (i + 2)
    | some _ => definitionLabelEnd? s fuel (i + 1)

def lineEnds (s : Source) (start stop : Nat) : Nat := (s.slice start stop).count '\n'

def endsLine (s : Source) (i : Nat) : Bool :=
  match s[s.skipAll isSpace i]? with
  | none => true
  | some c => c == '\n'

/-- The title behind an address that ends at an index, and the index behind it. There are blanks
before a title, unless it goes over the end of a line. -/
def definitionTitle? (s : Source) (behind : Nat) : Option (List Char × Nat) := do
  let start := s.skipAll isSpaceOrLineEnd behind
  let (title, next) ← title? s start s.size
  guard (start != behind || decide (0 < lineEnds s start next))
  return (title, next)

/-- The title that counts, and the number of lines that it adds. A title with more text behind it
does not count; then the line of the address has to end behind the address. -/
def definitionTail? (s : Source) (behind : Nat) : Option (List Char × Nat) :=
  let alone := if endsLine s behind then some ([], 0) else none
  match definitionTitle? s behind with
  | none => alone
  | some (title, next) =>
    if endsLine s next then some (title, lineEnds s behind next)
    else if title.isEmpty then none
    else alone

/-- The label of a definition, what it defines, and the number of lines that it takes. -/
def definitionOf? (s : Source) : Option (String × Definition × Nat) := do
  guard (s.has 0 '[')
  let labelEnd ← definitionLabelEnd? s s.size 1
  guard (s.has (labelEnd + 1) ':')
  let start := s.skipAll isSpaceOrLineEnd (labelEnd + 2)
  let lineStop := min (s.skipAll (· != '\n') start + 1) s.size
  let (raw, behind) ← destination? s start lineStop
  let address := Url.normalize raw
  guard (Url.isAllowed address)
  let tail := if lineStop ≤ behind then some ([], 0) else definitionTail? s behind
  let (title, more) ← tail
  let label := normalizeLabel (s.slice 1 labelEnd)
  guard (label != "")
  return (label, ⟨String.ofList address, String.ofList title⟩, lineEnds s 0 start + more + 1)

/-- A link definition. Of several for one label the first one counts. -/
def definition? : Rule := fun _ st =>
  if st.isCodeAt st.line || st.firstAt? st.line != some '[' then none
  else
    let l := st.lineAt st.line
    let text := st.src.slice l.textStart (l.stop + 1) ++
      definitionLines st (st.limit - st.line) (st.line + 1)
    (definitionOf? (Source.ofList text)).map fun (label, definition, count) =>
      let definitions := if (st.definitions.get? label).isSome then st.definitions
        else st.definitions.put label definition
      { st with definitions, line := st.line + count }

end ChapterTex.Markdown.Block
