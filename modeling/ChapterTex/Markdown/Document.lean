import ChapterTex.FrontMatter
import ChapterTex.Markdown.Block.Parse
import ChapterTex.Markdown.Inline.Parse

/-!
Documents in Markdown. Attributes that stand on lines of their own are given to the blocks behind
them, and the text of every block is read once all link definitions are known.
-/
namespace ChapterTex.Markdown

/-- A token with the attributes that stand before it. They win over its own, unless it is a line of
attributes too; classes add up. -/
def Token.receive (attrs : Record Datum) (t : Token) : Token :=
  let own := Attribute.withClassesBefore (Attribute.class? attrs) t.attrs
  if t.kind == "attrs_block" then
    { t with attrs := own ++ attrs.filter fun e => (own.get? e.1).isNone }
  else if t.nesting == .closing then t
  else
    let attrs := match Attribute.class? attrs, Attribute.class? own with
      | some _, some classes => Record.put "class" (.text classes) attrs
      | _, _ => attrs
    { t with attrs := Attribute.update own attrs }

/-- The blocks of a document without its lines of attributes. `pending` holds those of the line
before. -/
def resolveAttributes (pending : Option (Record Datum)) : List Token → List Token
  | [] => []
  | t :: rest =>
    let t := match pending with
      | none => t
      | some attrs => t.receive attrs
    if t.kind == "attrs_block" then resolveAttributes (some t.attrs) rest
    else t :: resolveAttributes none rest

/-- Merges neighbouring texts. Characters that were escaped or referred to are texts like any
other. -/
def joinTexts : List Token → List Token
  | [] => []
  | t :: rest =>
    let t := if t.kind == "text_special" then { t with kind := "text" } else t
    match joinTexts rest with
    | u :: joined =>
      if t.isText && u.isText then { t with content := t.content ++ u.content } :: joined
      else t :: u :: joined
    | [] => [t]

def Token.withSpans (definitions : Record Definition) (t : Token) : Token :=
  if t.kind == "inline" then { t with children := joinTexts (Inline.parse definitions t.content) }
  else t

def parse (document : String) : List Token :=
  let (tokens, definitions) := Block.parse (Source.ofList (normalize document.toList))
  (resolveAttributes none tokens).map (Token.withSpans definitions)

end ChapterTex.Markdown
