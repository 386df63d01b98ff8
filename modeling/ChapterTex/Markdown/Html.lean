import ChapterTex.Json.Reader
import ChapterTex.Text.Blank

/-!
Raw HTML, inside a paragraph and as a block of its own. It is recognised only so that it is not
taken for text.
-/
namespace ChapterTex.Markdown.Html

/-- A letter in lower case, where two letters beyond ASCII count as the ones they look like. -/
def lower (c : Char) : Char :=
  if c == '\u017f' then 's' else if c == '\u212a' then 'k' else c.toLower

def isTagChar (c : Char) : Bool := c.isAlphanum || c == '-'

def afterName? (s : List Char) : Option (List Char) :=
  if s.head?.any Char.isAlpha then some (s.dropWhile isTagChar) else none

def isAttributeStart (c : Char) : Bool := c.isAlpha || c == '_' || c == ':'

def isAttributeChar (c : Char) : Bool :=
  c.isAlphanum || c == ':' || c == '.' || c == '_' || c == '-'

def isBareChar (c : Char) : Bool :=
  decide (0x20 < c.toNat) && !"\"'=<>`".toList.contains c

def afterValue? (s : List Char) : Option (List Char) :=
  match s with
  | c :: rest =>
    if c == '"' || c == '\'' then
      match rest.dropWhile (· != c) with
      | _ :: tail => some tail
      | [] => none
    else if isBareChar c then some (rest.dropWhile isBareChar)
    else none
  | [] => none

def afterAssignment (s : List Char) : List Char :=
  match Text.trimStart s with
  | '=' :: rest => (afterValue? (Text.trimStart rest)).getD s
  | _ => s

/-- The rest behind the attributes of a tag. `fuel` is at least the length. -/
def afterAttributes : Nat → List Char → List Char
  | 0, s => s
  | fuel + 1, s =>
    match s with
    | c :: _ =>
      if Text.isBlank c then
        match Text.trimStart s with
        | d :: rest =>
          if isAttributeStart d then
            afterAttributes fuel (afterAssignment (rest.dropWhile isAttributeChar))
          else s
        | [] => s
      else s
    | [] => s

/-- The rest behind an opening tag, read after its first bracket. -/
def afterOpenTag? (s : List Char) : Option (List Char) := do
  let rest ← afterName? s
  match Text.trimStart (afterAttributes rest.length rest) with
  | '/' :: '>' :: tail => some tail
  | '>' :: tail => some tail
  | _ => none

/-- The rest behind a closing tag, read after its first bracket. -/
def afterCloseTag? (s : List Char) : Option (List Char) :=
  match s with
  | '/' :: rest => do
    let rest ← afterName? rest
    match Text.trimStart rest with
    | '>' :: tail => some tail
    | _ => none
  | _ => none

def afterNext? (word : List Char) : List Char → Option (List Char)
  | [] => if word.isEmpty then some [] else none
  | c :: rest =>
    match Json.afterWord? word (c :: rest) with
    | some tail => some tail
    | none => afterNext? word rest

/-- The rest behind a comment, read after its first two hyphens. A run of two hyphens in it may be
followed by anything but a bracket, and three hyphens do not end it. -/
def afterCommentText? : List Char → Option (List Char)
  | '-' :: '-' :: '>' :: rest => some rest
  | '-' :: '-' :: _ :: rest => afterCommentText? rest
  | '-' :: c :: rest => if c == '-' then none else afterCommentText? rest
  | c :: rest => if c == '-' then none else afterCommentText? rest
  | [] => none

/-- The rest behind a comment, an instruction, a declaration or literal data, read after its first
bracket. -/
def afterMarkup? (s : List Char) : Option (List Char) :=
  match s with
  | '!' :: '-' :: '-' :: rest =>
    match rest with
    | '>' :: tail => some tail
    | '-' :: '>' :: tail => some tail
    | rest => afterCommentText? rest
  | '?' :: rest => afterNext? ['?', '>'] rest
  | '!' :: '[' :: rest =>
    (Json.afterWord? "CDATA[".toList rest).bind (afterNext? "]]>".toList)
  | '!' :: c :: rest =>
    if c.isAlpha then
      match rest.dropWhile (· != '>') with
      | _ :: tail => some tail
      | [] => none
    else none
  | _ => none

def afterTag? (s : List Char) : Option (List Char) :=
  match s with
  | '<' :: rest => (afterOpenTag? rest).or ((afterCloseTag? rest).or (afterMarkup? rest))
  | _ => none

/-- The names of tags that start a block wherever they stand at the start of a line. -/
def blockNames : List String :=
  ["address", "article", "aside", "base", "basefont", "blockquote", "body", "caption", "center",
    "col", "colgroup", "dd", "details", "dialog", "dir", "div", "dl", "dt", "fieldset",
    "figcaption", "figure", "footer", "form", "frame", "frameset", "h1", "h2", "h3", "h4", "h5",
    "h6", "head", "header", "hr", "html", "iframe", "legend", "li", "link", "main", "menu",
    "menuitem", "nav", "noframes", "ol", "optgroup", "option", "p", "param", "search", "section",
    "summary", "table", "tbody", "td", "tfoot", "th", "thead", "title", "tr", "track", "ul"]

/-- The names of tags whose content is not markup. -/
def literalNames : List String := ["script", "pre", "style", "textarea"]

inductive BlockEnd where
  /-- At the line with the closing tag of literal content. -/
  | closingTag
  /-- At the line with this word. -/
  | word (w : String)
  /-- Before an empty line. -/
  | blankLine
deriving Repr, DecidableEq

/-- A start of a block: how it ends, and whether it ends a paragraph before it. -/
structure BlockStart where
  ending : BlockEnd
  interrupts : Bool
deriving Repr, DecidableEq

/-- Whether one of the names stands at the front, in any case, before an end that is accepted. -/
def startsName (names : List String) (s : List Char) (accepts : List Char → Bool) : Bool :=
  names.any fun name =>
    match Json.afterWord? name.toList ((s.take name.length).map lower) with
    | some _ => accepts (s.drop name.length)
    | none => false

def endsLiteralName (rest : List Char) : Bool :=
  match rest with
  | [] => true
  | c :: _ => c == '>' || Text.isBlank c

def endsBlockName (rest : List Char) : Bool :=
  match rest with
  | '/' :: '>' :: _ => true
  | rest => endsLiteralName rest

def blockStart? (line : List Char) : Option BlockStart :=
  match line with
  | '<' :: rest =>
    if startsName literalNames rest endsLiteralName then some ⟨.closingTag, true⟩
    else if ['!', '-', '-'].isPrefixOf rest then some ⟨.word "-->", true⟩
    else if ['?'].isPrefixOf rest then some ⟨.word "?>", true⟩
    else if rest.head? == some '!' && (rest.drop 1).head?.any Char.isUpper then
      some ⟨.word ">", true⟩
    else if "![CDATA[".toList.isPrefixOf rest then some ⟨.word "]]>", true⟩
    else
      let name := if rest.head? == some '/' then rest.drop 1 else rest
      if startsName blockNames name endsBlockName then some ⟨.blankLine, true⟩
      else
        match (afterOpenTag? rest).or (afterCloseTag? rest) with
        | some tail => if tail.all Text.isBlank then some ⟨.blankLine, false⟩ else none
        | none => none
  | _ => none

/-- Whether a closing tag of literal content occurs in a line. -/
def hasClosingTag : List Char → Bool
  | [] => false
  | c :: rest =>
    (c == '<' && rest.head? == some '/' &&
      startsName literalNames (rest.drop 1) (fun tail => tail.head? == some '>')) ||
      hasClosingTag rest

def BlockEnd.isMet (e : BlockEnd) (line : List Char) : Bool :=
  match e with
  | closingTag => hasClosingTag line
  | word w => (afterNext? w.toList line).isSome
  | blankLine => line.isEmpty

end ChapterTex.Markdown.Html
