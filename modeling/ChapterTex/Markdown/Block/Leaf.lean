import ChapterTex.Markdown.Attribute
import ChapterTex.Markdown.Block.Start

/-!
Blocks that hold no other blocks: code, headings, HTML, attributes, and paragraphs.
-/
namespace ChapterTex.Markdown.Block

/-- The line behind the last indented one. `last` is the line behind the last one so far. -/
def codeEnd (st : State) (stop : Nat) : Nat → Nat → Nat → Nat
  | 0, last, _ => last
  | count + 1, last, i =>
    if stop ≤ i then last
    else if st.isEmptyAt i then codeEnd st stop count last (i + 1)
    else if st.isCodeAt i then codeEnd st stop count (i + 1) (i + 1)
    else last

def code? : Rule := fun stop st =>
  if !st.isCodeAt st.line then none
  else
    let finish := codeEnd st stop (stop - st.line) (st.line + 1) (st.line + 1)
    let content := st.content st.line finish (4 + st.margin) false ++ ['\n']
    some ((st.push { kind := "code_block", tag := "code", content := String.ofList content }).goto
      finish)

def closesFence (fence : Fence) (s : List Char) : Bool :=
  decide (fence.length ≤ (s.takeWhile (· == fence.marker)).length) &&
    (s.dropWhile (· == fence.marker)).all isSpace

/-- The line at which fenced code ends, and whether that line belongs to it. -/
def fenceEnd (st : State) (stop : Nat) (fence : Fence) : Nat → Nat → Nat × Bool
  | 0, i => (i, false)
  | count + 1, i =>
    if stop ≤ i || (!st.isEmptyAt i && st.isOutside i) || (st.firstAt? i).isNone then (i, false)
    else if !st.isCodeAt i && closesFence fence (st.textAt i) then (i, true)
    else fenceEnd st stop fence count (i + 1)

def fenced? : Rule := fun stop st =>
  (fenceAt? st st.line).map fun fence =>
    let (finish, closed) := fenceEnd st stop fence (stop - st.line) (st.line + 1)
    let content := st.content (st.line + 1) finish (st.lineAt st.line).indent true
    (st.push
      { kind := "fence", tag := "code", content := String.ofList content,
        info := String.ofList (Text.trim fence.info) }).goto (if closed then finish + 1 else finish)

def break? : Rule := fun _ st =>
  if isBreakAt st st.line then some ((st.push { kind := "hr", tag := "hr" }).goto (st.line + 1))
  else none

def textBlock (kind tag : String) (content : List Char) : List Token :=
  [Token.opening (kind ++ "_open") tag, Token.inline (String.ofList content),
    Token.closing (kind ++ "_close") tag]

def headingContent (s : List Char) : List Char :=
  let body := (s.reverse.dropWhile isSpace).reverse
  let core := (body.reverse.dropWhile (· == '#')).reverse
  Text.trim (if core.getLast?.any isSpace then core else body)

/-- A heading behind one to six marks. -/
def marked? : Rule := fun _ st =>
  (headingAt? st st.line).map fun (level, rest) =>
    (st.pushAll (textBlock "heading" ("h" ++ toString level) (headingContent rest))).goto
      (st.line + 1)

def htmlEnd (st : State) (stop : Nat) (ending : Html.BlockEnd) : Nat → Nat → Nat
  | 0, i => i
  | count + 1, i =>
    if stop ≤ i || st.isOutside i then i
    else if ending.isMet (st.textAt i) then if (st.textAt i).isEmpty then i else i + 1
    else htmlEnd st stop ending count (i + 1)

def html? : Rule := fun stop st =>
  (htmlAt? st st.line).map fun start =>
    let next := st.line + 1
    let finish := if start.ending.isMet (st.textAt st.line) then next
      else htmlEnd st stop start.ending (stop - st.line) next
    let content := st.content st.line finish st.margin true
    (st.push { kind := "html_block", content := String.ofList content }).goto finish

/-- A line of attributes. They belong to the block behind it. -/
def attributes? : Rule := fun _ st =>
  let s := ((st.textAt st.line).reverse.dropWhile isSpace).reverse
  if st.isCodeAt st.line || s.getLast? != some '\x7d' then none
  else
    (Attribute.block? s).map fun (attrs, _) =>
      (st.push { kind := "attrs_block", attrs }).goto (st.line + 1)

def underline? (s : List Char) : Option Nat :=
  match s with
  | [] => none
  | mark :: _ =>
    if (mark == '=' || mark == '-') && (s.dropWhile (· == mark)).all isSpace then
      some (if mark == '=' then 1 else 2)
    else none

/-- Whether a line goes on with a paragraph whatever stands in it. -/
def isLazyAt (st : State) (i : Nat) : Bool :=
  decide (3 < st.indentAt i) || decide ((st.lineAt i).indent < 0)

/-- The underline of a heading that goes on at a line, and its level. -/
def underlineFrom? (st : State) (stop : Nat) : Nat → Nat → Option (Nat × Nat)
  | 0, _ => none
  | count + 1, i =>
    if stop ≤ i || st.isEmptyAt i then none
    else
      let level := if decide (3 < st.indentAt i) || st.isOutside i then none
        else underline? (st.textAt i)
      match level with
      | some level => some (i, level)
      | none =>
        if !isLazyAt st i && interrupts .paragraph stop st i then none
        else underlineFrom? st stop count (i + 1)

/-- A heading with a line of marks below it. -/
def underlined? : Rule := fun stop st =>
  if st.isCodeAt st.line then none
  else
    (underlineFrom? st stop (stop - st.line) (st.line + 1)).map fun (i, level) =>
      let content := Text.trim (st.content st.line i st.margin false)
      (st.pushAll (textBlock "heading" ("h" ++ toString level) content)).goto (i + 1)

def paragraphEnd (st : State) : Nat → Nat → Nat
  | 0, i => i
  | count + 1, i =>
    if st.limit ≤ i || st.isEmptyAt i ||
        (!isLazyAt st i && interrupts .paragraph st.limit st i) then i
    else paragraphEnd st count (i + 1)

/-- A paragraph. Any line that starts no other block starts one. -/
def paragraph? : Rule := fun _ st =>
  let finish := paragraphEnd st (st.limit - st.line) (st.line + 1)
  let content := Text.trim (st.content st.line finish st.margin false)
  some ((st.pushAll (textBlock "paragraph" "p" content)).goto finish)

end ChapterTex.Markdown.Block
