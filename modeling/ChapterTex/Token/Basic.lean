import ChapterTex.Token.Kind

/-!
Tokens of a document. A token stream is flat but for inline spans, whose content is their children.
-/
namespace ChapterTex

/-- A node of a token stream. Only the kind, the names of attributes and the children are sure to be
what they should; every other field holds the value that the source gave it. -/
structure Token where
  kind : TokenKind
  tag : Datum := .text ""
  content : Datum := .text ""
  attrs : List (String × Datum) := []
  args : List Datum := []
  children : List Token := []
  info : Datum := .text ""
  hashId : Datum := .null
deriving Inhabited

namespace Token

def attr? (t : Token) (name : String) : Option Datum := Record.get? t.attrs name

def isCellOpen (t : Token) : Bool := t.kind.isCellOpen

def argument? (t : Token) : Option Datum := t.args.head?

end Token
end ChapterTex
