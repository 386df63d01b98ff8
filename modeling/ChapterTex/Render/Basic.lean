import ChapterTex.Book.Registry
import ChapterTex.Latex.Index
import ChapterTex.Render.Context
import ChapterTex.Render.Figure
import ChapterTex.Render.Template

/-!
Rendering of token streams. Every kind of token has one rule, which gives the text of a token and
the context for the rest of the stream. Only the close of a table cell looks at the token after it.
-/
namespace ChapterTex

/-- What the rendering of a chapter depends on besides its tokens. -/
structure Renderer where
  registry : Book.Registry
  chapter : String
  frontMatter : Bool := false
  figureWidth : String := "10cm"

/-- What a rule gives: the text of a token and the context after it. Raw text is passed on as it is,
so it may turn out to be no text. -/
abbrev Rendered := Except Failure (Datum × Context)

namespace Renderer

def label (r : Renderer) (t : Token) : String :=
  match t.attr? "id" with
  | some anchor =>
    if anchor.truthy then "\\label\x7b" ++ r.chapter ++ "." ++ anchor.display ++ "\x7d" else ""
  | none => ""

/-- A paragraph starts after a blank line, but not after the opening quotes of an epigraph. -/
def paragraphOpen (r : Renderer) (t : Token) (c : Context) : Rendered :=
  if c.quote then .ok (.text (r.label t), c.withQuote false)
  else .ok (.text ("\n\n" ++ r.label t), c)

/-- The chapter heading carries the label of the chapter, other headings that of their id. -/
def headingOpen (r : Renderer) (t : Token) (c : Context) : Rendered :=
  if t.tag.text? == some "h1" then
    let star := if r.frontMatter then "*" else ""
    .ok (.text ("\\label\x7b" ++ r.chapter ++ "\x7d\\chapter" ++ star ++ "\x7b"), c)
  else
    match t.tag.text?.bind sectionCommand? with
    | some command => .ok (.text ("\n\n" ++ r.label t ++ "\\" ++ command ++ "\x7b"), c)
    | none => .error (if t.tag.isKey then .unsupportedHeading t.tag.display else .wrongKind)

/-- Neighbouring cells are separated. -/
def cellClose (next : Option Token) (c : Context) : Rendered :=
  .ok (.text (if next.any Token.isCellOpen then " &" else ""), c)

def fence (r : Renderer) (t : Token) (c : Context) : Rendered := do
  let some info := t.info.text? | .error .wrongKind
  if isHidden info then return (.text "", c)
  let some content := t.content.text? | .error .noSuchPart
  return (.text ("\n\n" ++ r.label t ++ "\\begin\x7blstlisting\x7d\n"
    ++ Text.trimEndText content ++ "\n\\end\x7blstlisting\x7d\n\\noindent"), c)

/-- Replaces every question mark by a number. -/
def withNumber (n : Int) (s : String) : String :=
  String.ofList (s.toList.flatMap fun c => if c == '?' then (toString n).toList else [c])

/-- The content of a text token, with the number of the linked chapter. -/
def numbered (c : Context) (content : Datum) : Except Failure Datum :=
  match c.linkedChapter with
  | none => .ok content
  | some n =>
    match content.text? with
    | some s => .ok (.text (withNumber n s))
    | none => .error .noSuchPart

def text (t : Token) (c : Context) : Rendered := do
  let content ← numbered c t.content
  let shown ← if c.raw then .ok content else Latex.escapeDatum content
  return (shown, c)

def codeInline (t : Token) (c : Context) : Rendered := do
  let code ← Latex.escapeVerbatimDatum t.content
  return (.text ("\\lstinline`" ++ code.display ++ "`"), c)

/-- A link to a chapter is a cross-reference; other links keep their address. -/
def linkOpen (r : Renderer) (t : Token) (c : Context) : Rendered := do
  let target := ((t.attr? "href").getD .null).orElse (.text "")
  let some href := target.text? | .error .wrongKind
  match r.registry.resolve href with
  | none => return (.text ("\\href\x7b" ++ href ++ "\x7d\x7b"), c)
  | some link =>
    return (.text ("\\hyperref[" ++ link.label ++ "]\x7b"), c.withLinkedChapter (some link.index))

def linkClose (c : Context) : Rendered := .ok (.text "\x7d", c.withLinkedChapter none)

def metaIndex (t : Token) (c : Context) : Rendered := .ok (.text (Latex.indexEntries t.args), c)

def metaIndexsee (t : Token) (c : Context) : Rendered :=
  match t.args with
  | term :: target :: _ => .ok (.text (Latex.indexSee term target), c)
  | _ => .error .missingArgument

def fieldsOf (d : Datum) : Except Failure (Record Datum) :=
  match d with
  | .dict fields => .ok fields
  | _ => .error .noSuchPart

def metaFigure (r : Renderer) (t : Token) (c : Context) : Rendered := do
  let figure ← fieldsOf (t.argument?.getD (.dict []))
  let some url := ((Datum.field? figure "url").orElse (.text "")).text? | .error .noSuchPart
  let width := (Datum.field? figure "width").orElse (.text r.figureWidth)
  return (.text ("\n\n\\vskip 1.5ex\n\\includegraphics[width=" ++ width.display ++ "]\x7b"
    ++ Figure.printed url ++ "\x7d\n\\vskip 1.5ex"), c)

/-- The fields of a quotation. An absent one has none. -/
def quotation (t : Token) : Except Failure (Record Datum) :=
  fieldsOf ((t.argument?.getD .null).orElse (.dict []))

/-- A quotation of a chapter is an epigraph. -/
def isEpigraph (quote : Record Datum) : Bool := (Datum.field? quote "chapter").truthy

def metaQuoteOpen (t : Token) (c : Context) : Rendered := do
  let quote ← quotation t
  if isEpigraph quote then
    return (.text "\n\n\\epigraphhead[30]\x7b\n\\epigraph\x7b\\hspace*\x7b-.1cm\x7d\\itshape``",
      c.withQuote true)
  else return (.text "\n\n\\begin\x7bquote\x7d", c)

/-- Author and title of a quotation. A title alone is not printed. -/
def attribution (quote : Record Datum) : Except Failure String := do
  let author := Datum.field? quote "author"
  let title := Datum.field? quote "title"
  if author.truthy then
    let author ← Latex.escapeDatum author
    let work ← if title.truthy then
        (fun title => ", " ++ Datum.display title) <$> Latex.escapeDatum title
      else .ok ""
    return "\n\x7b---" ++ author.display ++ work ++ "\x7d"
  else return ""

def metaQuoteClose (t : Token) (c : Context) : Rendered := do
  let quote ← quotation t
  let attribution ← attribution quote
  let c := c.withQuote false
  if isEpigraph quote then return (.text ("''\x7d%" ++ attribution ++ "\n\x7d"), c)
  else return (.text (attribution ++ "\n\\end\x7bquote\x7d"), c)

/-- The rule of every token that has no tokens inside. -/
def rule (r : Renderer) (t : Token) (next : Option Token) (c : Context) : Rendered :=
  match t.kind with
  | .paragraphOpen => r.paragraphOpen t c
  | .headingOpen => r.headingOpen t c
  | .thClose => cellClose next c
  | .tdClose => cellClose next c
  | .fence => r.fence t c
  | .codeInline => codeInline t c
  | .linkOpen => r.linkOpen t c
  | .linkClose => linkClose c
  | .text => text t c
  | .metaIndex => metaIndex t c
  | .metaIndexsee => metaIndexsee t c
  | .metaFigure => r.metaFigure t c
  | .metaLatexOpen => .ok (.text "", c.withRaw true)
  | .metaLatexClose => .ok (.text "", c.withRaw false)
  | .metaQuoteOpen => metaQuoteOpen t c
  | .metaQuoteClose => metaQuoteClose t c
  | kind => .ok (.text (kind.template?.getD ""), c)

/-- The text of a list of pieces. A piece that is no text has none. -/
def join : List Datum → Except Failure String
  | [] => .ok ""
  | d :: rest =>
    match d.text? with
    | none => .error .wrongKind
    | some s => (s ++ ·) <$> join rest

mutual

def renderToken (r : Renderer) (t : Token) (next : Option Token) (c : Context) : Rendered :=
  match t with
  | ⟨kind, tag, content, attrs, args, children, info, hashId⟩ =>
    if kind = .inline then
      match pieces r children c with
      | .error e => .error e
      | .ok (parts, c) => (fun s => (.text s, c)) <$> join parts
    else r.rule ⟨kind, tag, content, attrs, args, children, info, hashId⟩ next c

def pieces (r : Renderer) : List Token → Context → Except Failure (List Datum × Context)
  | [], c => .ok ([], c)
  | t :: rest, c =>
    match renderToken r t rest.head? c with
    | .error e => .error e
    | .ok (piece, c) =>
      match pieces r rest c with
      | .error e => .error e
      | .ok (more, c) => .ok (piece :: more, c)

end

/-- The text of a stream that starts in the given context, and the context after it. -/
def renderFrom (r : Renderer) (tokens : List Token) (c : Context) :
    Except Failure (String × Context) :=
  match r.pieces tokens c with
  | .error e => .error e
  | .ok (parts, c) => (·, c) <$> join parts

def render (r : Renderer) (tokens : List Token) : Except Failure String :=
  Prod.fst <$> r.renderFrom tokens {}

end Renderer
end ChapterTex
