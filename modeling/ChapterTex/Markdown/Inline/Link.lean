import ChapterTex.Markdown.Inline.Rules

/-!
Links and images. The label is found first, by going over the spans in it without reading them; then
the address follows in parentheses, or a definition has it.
-/
namespace ChapterTex.Markdown.Inline

/-- What the rules for links need besides the state: the definitions of the document, how to go over
one span, how to read the text of a link, and how to read the description of an image. -/
structure Scope where
  definitions : Record Definition
  skip : State → State
  content : State → State
  description : List Char → List Token

/-- The index of the bracket that closes a label, and the state with what was learnt on the way. A
link inside the label is refused if `plain` is set. -/
def closingBracket (skip : State → State) (plain : Bool) : Nat → Nat → State → Option Nat × State
  | 0, _, st => (none, st)
  | fuel + 1, level, st =>
    match st.current? with
    | none => (none, st)
    | some c =>
      let level := if c == ']' then level - 1 else level
      if level == 0 then (some st.pos, st)
      else
        let st' := skip st
        if c == '[' then
          if st'.pos == st.pos + 1 then closingBracket skip plain fuel (level + 1) st'
          else if plain then (none, st')
          else closingBracket skip plain fuel level st'
        else closingBracket skip plain fuel level st'

def labelEnd (scope : Scope) (st : State) (start : Nat) (plain : Bool) : Option Nat × State :=
  let (finish, st') :=
    closingBracket scope.skip plain (st.stop - start + 1) 1 (st.advance (start + 1))
  (finish, st'.advance st.pos)

structure Target where
  address : String
  title : String
  next : Nat

/-- The outcome of reading an address in parentheses. The index is the one at which reading
stopped. -/
inductive Parenthesized where
  | found (target : Target)
  | failed (next : Nat)
  | refused

/-- Reads an address and a title in parentheses, from the index behind the opening one. -/
def parenthesized (src : Source) (start stop : Nat) : Parenthesized :=
  let skip (i : Nat) : Nat := src.skipWhile isSpaceOrLineEnd i stop
  let pos := skip start
  if stop ≤ pos then .refused
  else
    let finish (address title : List Char) (pos : Nat) : Parenthesized :=
      if decide (pos < stop) && src.has pos ')' then
        .found ⟨String.ofList address, String.ofList title, pos + 1⟩
      else .failed (pos + 1)
    match destination? src pos stop with
    | none => finish [] [] pos
    | some (raw, behind) =>
      let address := Url.normalize raw
      let allowed := Url.isAllowed address
      let before := if allowed then behind else pos
      let address := if allowed then address else []
      let pos := skip before
      match if pos < stop && before != pos then title? src pos stop else none with
      | some (title, behind) => finish address title (skip behind)
      | none => finish address [] pos

/-- The target that a definition gives, for a label that may be followed by another one in
brackets. -/
def defined (scope : Scope) (st : State) (start finish behind : Nat) : Option Target × State :=
  if scope.definitions.isEmpty then (none, st)
  else
    let (second, st) :=
      if decide (behind < st.stop) && st.src.has behind '[' then labelEnd scope st behind false
      else (none, st)
    let (label, next) := match second with
      | some e => (st.src.slice (behind + 1) e, e + 1)
      | none => ([], finish + 1)
    let label := if label.isEmpty then st.src.slice start finish else label
    match scope.definitions.get? (normalizeLabel label) with
    | some d => (some ⟨d.address, d.title, next⟩, st)
    | none => (none, st)

def titleAttribute (title : String) : List (String × Datum) :=
  if title == "" then [] else [("title", .text title)]

def link (scope : Scope) (silent : Bool) (st : State) : State × Bool :=
  if st.current? != some '[' then (st, false)
  else
    match labelEnd scope st st.pos true with
    | (none, st) => (st, false)
    | (some finish, st) =>
      let start := st.pos + 1
      let (target, st) :=
        if decide (finish + 1 < st.stop) && st.src.has (finish + 1) '(' then
          match parenthesized st.src (finish + 2) st.stop with
          | .found target => (some target, st)
          | .refused => (none, st)
          | .failed next => defined scope st start finish next
        else defined scope st start finish (finish + 1)
      match target with
      | none => (st, false)
      | some target =>
        if silent then (st.advance target.next, true)
        else
          let stop := st.stop
          let attrs := ("href", .text target.address) :: titleAttribute target.title
          let st := ({ st with pos := start, stop := finish }).push
            { Token.opening "link_open" "a" with attrs }
          let st := (scope.content st).push (Token.closing "link_close" "a")
          ({ st with pos := target.next, stop }, true)

/-- Reads an image. An address that is refused leaves an image without one. -/
def image (scope : Scope) (silent : Bool) (st : State) : State × Bool :=
  if st.current? != some '!' || !(st.src.has (st.pos + 1) '[' || decide (st.stop ≤ st.pos + 1)) then
    (st, false)
  else
    match labelEnd scope st (st.pos + 1) false with
    | (none, st) => (st, false)
    | (some finish, st) =>
      let start := st.pos + 2
      let (target, st) :=
        if decide (finish + 1 < st.stop) && st.src.has (finish + 1) '(' then
          match parenthesized st.src (finish + 2) st.stop with
          | .found target => (some target, st)
          | _ => (none, st)
        else defined scope st start finish (finish + 1)
      match target with
      | none => (st, false)
      | some target =>
        if silent then (st.advance target.next, true)
        else
          let content := st.src.slice start finish
          let attrs := ("src", Datum.text target.address) :: ("alt", .text "")
            :: titleAttribute target.title
          let st := st.push
            { kind := "image", tag := "img", content := String.ofList content, attrs,
              children := scope.description content }
          (st.advance target.next, true)

end ChapterTex.Markdown.Inline
