import ChapterTex.Text.Blank

/-!
A source text as an array of characters, and scans of it. A scan starts at an index and stops at a
limit; it gives the first index at which its characters end.
-/
namespace ChapterTex.Markdown

abbrev Source := Array Char

def isSpace (c : Char) : Bool := c == ' ' || c == '\t'

namespace Source

def ofList (s : List Char) : Source := s.toArray

def test (s : Source) (i : Nat) (p : Char → Bool) : Bool := s[i]?.any p

def has (s : Source) (i : Nat) (c : Char) : Bool := s[i]? == some c

def slice (s : Source) (start stop : Nat) : List Char := (s.extract start stop).toList

def sliceText (s : Source) (start stop : Nat) : String := String.ofList (s.slice start stop)

/-- Skips at most `count` characters that satisfy a test. -/
def skip (s : Source) (p : Char → Bool) : Nat → Nat → Nat
  | 0, i => i
  | count + 1, i => if s.test i p then s.skip p count (i + 1) else i

def skipWhile (s : Source) (p : Char → Bool) (i stop : Nat) : Nat := s.skip p (stop - i) i

def skipAll (s : Source) (p : Char → Bool) (i : Nat) : Nat := s.skipWhile p i s.size

end Source

/-- The source of a document: every line ends in a line feed, and the null character is replaced. -/
def normalize : List Char → List Char
  | [] => []
  | '\r' :: '\n' :: rest => '\n' :: normalize rest
  | c :: rest =>
    (if c == '\r' then '\n' else if c == '\x00' then '\ufffd' else c) :: normalize rest

end ChapterTex.Markdown
