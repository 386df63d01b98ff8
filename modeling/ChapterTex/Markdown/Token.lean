import ChapterTex.Datum.Basic

/-!
Tokens of a Markdown document. Blocks are a flat list in which pairs of tokens enclose what they
contain; the text of a block is an inline token, whose children are its spans.
-/
namespace ChapterTex.Markdown

inductive Nesting where
  | opening
  | closing
  | alone
deriving Repr, DecidableEq, Inhabited

structure Token where
  kind : String
  tag : String := ""
  content : String := ""
  info : String := ""
  attrs : List (String × Datum) := []
  children : List Token := []
  nesting : Nesting := .alone
deriving Inhabited

namespace Token

/-- A token that encloses others, or its counterpart. -/
def opening (kind tag : String) : Token := { kind, tag, nesting := .opening }

def closing (kind tag : String) : Token := { kind, tag, nesting := .closing }

def text (content : String) : Token := { kind := "text", content }

/-- The text of a block, whose spans are not yet known. -/
def inline (content : String) : Token := { kind := "inline", content }

def isText (t : Token) : Bool := t.kind == "text"

end Token
end ChapterTex.Markdown
