import ChapterTex.Markdown.Attribute
import ChapterTex.Markdown.Destination
import ChapterTex.Markdown.Html
import ChapterTex.Markdown.Inline.Emphasis

/-!
The spans of a text that hold no other spans. A rule that applies moves on behind its span; a silent
one adds no tokens.
-/
namespace ChapterTex.Markdown.Inline

abbrev Rule := Bool → State → Option State

def isSpanStart (c : Char) : Bool := "\n!#$%&*+-:<=>@[\\]^_`\x7b\x7d~".toList.contains c

def text? : Rule := fun silent st =>
  let finish := st.src.skipWhile (fun c => !isSpanStart c) st.pos st.stop
  if finish == st.pos then none
  else
    let st := if silent then st else st.addPending (st.src.slice st.pos finish)
    some (st.advance finish)

def dropSpaces (pending : Array Char) : Array Char :=
  (pending.toList.reverse.dropWhile (· == ' ')).reverse.toArray

/-- The end of a line. Two spaces before it make it a hard break. -/
def newline? : Rule := fun silent st =>
  if st.current? != some '\n' then none
  else
    let next := st.src.skipWhile isSpace (st.pos + 1) st.stop
    if silent then some (st.advance next)
    else
      let count := st.pending.size
      let space (k : Nat) : Bool := decide (k ≤ count) && st.pending[count - k]? == some ' '
      let kind := if space 1 && space 2 then "hardbreak" else "softbreak"
      let st := { st with pending := dropSpaces st.pending }
      some ((st.push { kind, tag := "br" }).advance next)

/-- A backslash: before a line end a hard break, before punctuation the character itself. -/
def escape? : Rule := fun silent st =>
  if st.current? != some '\\' then none
  else
    match ({ st with pos := st.pos + 1 } : State).current? with
    | none => none
    | some '\n' =>
      let st' := if silent then st else st.push { kind := "hardbreak", tag := "br" }
      some (st'.advance (st.src.skipWhile isSpace (st.pos + 2) st.stop))
    | some c =>
      let content := if Text.isAsciiPunctuation c then [c] else ['\\', c]
      let st' := if silent then st
        else st.push { kind := "text_special", content := String.ofList content, info := "escape" }
      some (st'.advance (st.pos + 2))

/-- The place and the end of the next run of backticks of the given length. Of the other runs the
last place of each length is noted. -/
def closingTicks? (src : Source) (stop length : Nat) :
    Nat → Nat → List (Nat × Nat) → Option (Nat × Nat) × List (Nat × Nat)
  | 0, _, ticks => (none, ticks)
  | fuel + 1, i, ticks =>
    let start := src.skipAll (· != '`') i
    if src.size ≤ start then (none, ticks)
    else
      let finish := src.skipWhile (· == '`') (start + 1) stop
      if finish - start == length then (some (start, finish), ticks)
      else closingTicks? src stop length fuel finish ((finish - start, start) :: ticks)

/-- The code between backticks: line ends are spaces, and one space is dropped from either end if
there is something else in between. -/
def codeContent (s : List Char) : List Char :=
  let s := s.map fun c => if c == '\n' then ' ' else c
  if s.head? == some ' ' && s.getLast? == some ' ' && !s.all Text.isBlank then (s.drop 1).dropLast
  else s

/-- A run of backticks: code up to the next run of the same length, or else plain text. -/
def code? : Rule := fun silent st =>
  if st.current? != some '`' then none
  else
    let start := st.pos
    let finish := st.src.skipWhile (· == '`') (start + 1) st.stop
    let length := finish - start
    let plain (st : State) : State :=
      (if silent then st else st.addPending (List.replicate length '`')).advance finish
    if st.ticksKnown && decide ((st.ticks.lookup length).getD 0 ≤ start) then some (plain st)
    else
      match closingTicks? st.src st.stop length (st.src.size + 1) finish st.ticks with
      | (some (close, next), ticks) =>
        let st := { st with ticks }
        let st := if silent then st
          else st.push
            { kind := "code_inline", tag := "code",
              content := String.ofList (codeContent (st.src.slice finish close)) }
        some (st.advance next)
      | (none, ticks) => some (plain { st with ticks, ticksKnown := true })

def isAddressChar (c : Char) : Bool :=
  decide (0x20 < c.toNat) && c != '<' && c != '>'

/-- An address between angle brackets starts with a scheme of two to thirty-two characters. -/
def isAddress (s : List Char) : Bool :=
  let isSchemeChar (c : Char) : Bool := c.isAlphanum || c == '+' || c == '.' || c == '-'
  let scheme := s.takeWhile isSchemeChar
  s.head?.any Char.isAlpha && decide (2 ≤ scheme.length) && decide (scheme.length ≤ 32) &&
    match s.dropWhile isSchemeChar with
    | ':' :: rest => rest.all isAddressChar
    | _ => false

def isMailLabel (s : List Char) : Bool :=
  s.head?.any Char.isAlphanum && s.getLast?.any Char.isAlphanum &&
    s.all (fun c => c.isAlphanum || c == '-') && decide (s.length ≤ 63)

def isMail (s : List Char) : Bool :=
  let isNameChar (c : Char) : Bool := c.isAlphanum || ".!#$%&'*+/=?^_`\x7b|\x7d~-".toList.contains c
  let name := s.takeWhile isNameChar
  !name.isEmpty &&
    match s.dropWhile isNameChar with
    | '@' :: domain => (Text.pieces '.' domain).all isMailLabel
    | _ => false

/-- A link that shows its address. -/
def pushAutolink (st : State) (address shown : List Char) : State :=
  let href := ("href", Datum.text (String.ofList address))
  ((st.push { Token.opening "link_open" "a" with attrs := [href], info := "auto" }).push
    (Token.text (String.ofList shown))).push { Token.closing "link_close" "a" with info := "auto" }

def autolink? : Rule := fun silent st =>
  if st.current? != some '<' then none
  else
    let finish := st.src.skipWhile (fun c => c != '<' && c != '>') (st.pos + 1) st.stop
    if st.stop ≤ finish || !st.src.has finish '>' then none
    else
      let shown := st.src.slice (st.pos + 1) finish
      let target :=
        if isAddress shown then some shown
        else if isMail shown then some ("mailto:".toList ++ shown)
        else none
      match target with
      | none => none
      | some target =>
        let address := Url.normalize target
        if Url.isAllowed address then
          let st := if silent then st else pushAutolink st address (Url.displayed shown)
          some (st.advance (finish + 1))
        else none

def html? : Rule := fun silent st =>
  if st.current? != some '<' || decide (st.stop ≤ st.pos + 2) then none
  else
    let text := st.src.slice st.pos st.src.size
    match Html.afterTag? text with
    | none => none
    | some rest =>
      let length := text.length - rest.length
      let st' := if silent then st
        else st.push
          { kind := "html_inline", content := st.src.sliceText st.pos (st.pos + length) }
      some (st'.advance (st.pos + length))

def reference? : Rule := fun silent st =>
  if st.current? != some '&' || decide (st.stop ≤ st.pos + 1) then none
  else
    match Entity.reference? (st.src.slice (st.pos + 1) (st.pos + 41)) with
    | none => none
    | some (image, body) =>
      let st' := if silent then st
        else st.push { kind := "text_special", content := String.ofList image, info := "entity" }
      some (st'.advance (st.pos + body.length + 2))

/-- The place of the token that the last token closes, or of the last token itself. `depth` closed
pairs are to be gone back over. -/
def openingOf? (tokens : Array Token) : Nat → Nat → Option Nat
  | 0, _ => none
  | i + 1, depth =>
    match (tokens.getD i default).nesting, depth with
    | .alone, 0 => some i
    | .alone, depth => openingOf? tokens i depth
    | .closing, depth => openingOf? tokens i (depth + 1)
    | .opening, 1 => some i
    | .opening, depth => openingOf? tokens i (depth - 1)

def takesAttributes (t : Token) : Bool :=
  t.kind == "image" || t.kind == "code_inline" || t.kind == "link_close"

/-- An attribute block directly behind code, an image or a link. -/
def attributes? : Rule := fun silent st =>
  if st.current? != some '\x7b' || !st.pending.isEmpty then none
  else do
    let last ← st.tokens.back?
    guard (takesAttributes last)
    let text := st.src.slice st.pos st.src.size
    let (attrs, rest) ← Attribute.block? text
    let place ← openingOf? st.tokens st.tokens.size 0
    let st' := if silent then st
      else
        let attrs := Attribute.withClassesBefore (Attribute.class? last.attrs) attrs
        { st with
          tokens := st.tokens.modify place fun t =>
            { t with attrs := Attribute.update t.attrs attrs } }
    return st'.advance (st.pos + (text.length - rest.length))

end ChapterTex.Markdown.Inline
