import ChapterTex.Markdown.Document
import ChapterTex.Title
import ChapterTex.Token.Basic

/-!
Documents in Markdown as token streams. Every token has to be of a kind that can be rendered; the
texts of headings may be given capitals on the way.
-/
namespace ChapterTex

namespace Token

mutual

/-- The token that a token of a Markdown document denotes. Its children come before itself. -/
def ofMarkdown : Markdown.Token → Except Failure Token
  | ⟨kind, tag, content, info, attrs, children, _⟩ => do
    let children ← ofMarkdownAll children
    let kind ← TokenKind.ofDatum (.text kind)
    return {
      kind
      tag := .text tag
      content := .text content
      attrs := attrs.map fun a => (a.1, .text a.2.display)
      children
      info := .text info }

def ofMarkdownAll : List Markdown.Token → Except Failure (List Token)
  | [] => .ok []
  | t :: rest => do
    let token ← ofMarkdown t
    let tokens ← ofMarkdownAll rest
    return token :: tokens

end

/-- Spans whose texts have the capitals of a title. Only the first text that is not empty opens
it. -/
def capitalizeTexts (first : Bool) : List Token → List Token
  | [] => []
  | t :: rest =>
    match t.kind, t.content with
    | .text, .text s =>
      if s == "" then t :: capitalizeTexts first rest
      else { t with content := .text (Title.capitalize s first) } :: capitalizeTexts false rest
    | _, _ => t :: capitalizeTexts first rest

def capitalized (t : Token) : Token := { t with children := capitalizeTexts true t.children }

end Token

namespace Markdown

/-- Whether a token stands in a heading, if the tokens before it do so or not. -/
def headingAfter (inHeading : Bool) (t : Markdown.Token) : Bool :=
  if t.kind == "heading_open" then true
  else if t.kind == "heading_close" then false
  else inHeading

def adaptFrom (capitals inHeading : Bool) :
    List Markdown.Token → Except Failure (List ChapterTex.Token)
  | [] => .ok []
  | t :: rest => do
    let inHeading := headingAfter inHeading t
    let token ← Token.ofMarkdown t
    let tokens ← adaptFrom capitals inHeading rest
    return (if inHeading && capitals then token.capitalized else token) :: tokens

def adapt (capitals : Bool) (tokens : List Markdown.Token) :
    Except Failure (List ChapterTex.Token) :=
  adaptFrom capitals false tokens

/-- The token stream of a document that may have front matter. -/
def load (capitals : Bool) (document : String) : Except Failure (List ChapterTex.Token) :=
  adapt capitals (parse (FrontMatter.strip document))

end Markdown
end ChapterTex
