/-!
The modes of a rendering run. A mode holds from the token that sets it to the next one that does.
-/
namespace ChapterTex

/-- In `raw` mode text is not escaped. In `quote` mode the next paragraph follows the opening quotes
of an epigraph without a blank line. A linked chapter is the number that replaces question marks. -/
structure Context where
  raw : Bool := false
  quote : Bool := false
  linkedChapter : Option Int := none
deriving Repr, DecidableEq

namespace Context

def withRaw (c : Context) (raw : Bool) : Context := { c with raw }

def withQuote (c : Context) (quote : Bool) : Context := { c with quote }

def withLinkedChapter (c : Context) (linkedChapter : Option Int) : Context :=
  { c with linkedChapter }

end Context
end ChapterTex
