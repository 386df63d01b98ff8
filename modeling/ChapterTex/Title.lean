import ChapterTex.Text.Case
import ChapterTex.Text.Pieces

/-!
Capitals in titles. Every word starts with a capital, but for small words that do not open the
title.
-/
namespace ChapterTex.Title

/-- Words that stay in lower case. No letter beyond ASCII has a lower case that occurs in them. -/
def smallWords : List String :=
  ["a", "an", "and", "as", "at", "but", "by", "for", "from", "in", "into", "nor", "of", "on", "or",
    "the", "to", "with"]

def isSmall (word : List Char) : Bool :=
  smallWords.contains (String.ofList (word.map Char.toLower))

/-- The words of a title: what stands between its spaces. -/
def words (s : List Char) : List (List Char) := Text.pieces ' ' s

def unwords (ws : List (List Char)) : List Char := Text.unite ' ' ws

/-- A word with its first letter in upper case. -/
def capital : List Char → List Char
  | [] => []
  | c :: rest => Text.upper c ++ rest

def titleWord (opening : Bool) (word : List Char) : List Char :=
  if opening || !isSmall word then capital word else word

def capitalizeChars (s : List Char) (first : Bool) : List Char :=
  match words s with
  | [] => []
  | w :: ws => unwords (titleWord first w :: ws.map (titleWord false))

/-- A piece of a title with capitals. `first` tells that it opens the title. -/
def capitalize (s : String) (first : Bool) : String :=
  String.ofList (capitalizeChars s.toList first)

end ChapterTex.Title
