import ChapterTex.Markdown.Inline.Link

/-!
Reading the text of a block. At every place the first rule that applies is taken; where none applies
the character is plain text. Links nest to a limited depth, beyond which all is plain text.
-/
namespace ChapterTex.Markdown.Inline

/-- The depth to which links nest. -/
def maxNesting : Nat := 20

def earlyRules : List Rule := [text?, newline?, escape?, code?, emphasis?]

def lateRules : List Rule := [autolink?, html?, reference?, attributes?]

def first? (rules : List Rule) (silent : Bool) (st : State) : Option State :=
  rules.findSome? fun rule => rule silent st

/-- Takes the first rule that applies. A rule that does not apply may still leave what it learnt. -/
def apply (scope : Scope) (silent : Bool) (st : State) : State × Bool :=
  match first? earlyRules silent st with
  | some st => (st, true)
  | none =>
    match link scope silent st with
    | (st, true) => (st, true)
    | (st, false) =>
      match image scope silent st with
      | (st, true) => (st, true)
      | (st, false) =>
        match first? lateRules silent st with
        | some st => (st, true)
        | none => (st, false)

/-- Goes over one span, or over one character. `room` is the depth that is left. What was found is
noted, and is not looked for again. -/
def skipToken (definitions : Record Definition) : Nat → State → State
  | room, st =>
    match st.skipped.getD st.pos 0 with
    | next + 1 => st.advance (next + 1)
    | 0 =>
      let place := st.pos
      let st :=
        match room with
        | 0 => st.advance (st.stop + 1)
        | room + 1 =>
          let scope : Scope :=
            { definitions, skip := skipToken definitions room, content := id,
              description := fun _ => [] }
          match apply scope true st with
          | (st, true) => st
          | (st, false) => st.advance (st.pos + 1)
      { st with skipped := st.skipped.setIfInBounds place st.pos }

/-- Reads up to the end of the text. `fuel` is larger than the number of characters left. -/
def run (scope : Scope) : Nat → State → State
  | 0, st => st.flush
  | fuel + 1, st =>
    match st.current? with
    | none => st.flush
    | some c =>
      match apply scope false st with
      | (st, true) => run scope fuel st
      | (st, false) => run scope fuel ((st.addPending [c]).advance (st.pos + 1))

def readText (definitions : Record Definition) (description : List Char → List Token) :
    Nat → State → State
  | 0, st => ((st.addPending (st.src.slice st.pos st.stop)).advance st.stop).flush
  | room + 1, st =>
    let scope : Scope :=
      { definitions
        skip := skipToken definitions (room + 1)
        content := readText definitions description room
        description }
    run scope (st.stop - st.pos + 1) st

/-- The spans of a text. Every description of an image is shorter than the text that the image is
in. -/
def parseWithin (definitions : Record Definition) : Nat → List Char → List Token
  | 0, _ => []
  | fuel + 1, s =>
    finish (readText definitions (parseWithin definitions fuel) maxNesting
      (State.ofSource (Source.ofList s)))

def parse (definitions : Record Definition) (s : String) : List Token :=
  parseWithin definitions (s.length + 1) s.toList

end ChapterTex.Markdown.Inline
