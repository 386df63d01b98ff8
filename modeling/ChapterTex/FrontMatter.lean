import ChapterTex.Text.Blank

/-!
Front matter: a block at the start of a document between two lines of three hyphens. It is removed
together with the blanks after it.
-/
namespace ChapterTex.FrontMatter

/-- What follows a closing line and the blanks after it, if one starts here. A line end has to be
among the blanks. -/
def afterClosing? : List Char → Option (List Char)
  | '\n' :: '-' :: '-' :: '-' :: rest =>
    if (rest.takeWhile Text.isBlank).contains '\n' then some (rest.dropWhile Text.isBlank) else none
  | _ => none

/-- What follows the first closing line. -/
def afterBlock? : List Char → Option (List Char)
  | [] => none
  | c :: rest =>
    match afterClosing? (c :: rest) with
    | some tail => some tail
    | none => afterBlock? rest

def stripChars : List Char → List Char
  | '-' :: '-' :: '-' :: rest => (afterBlock? rest).getD ('-' :: '-' :: '-' :: rest)
  | s => s

def strip (s : String) : String := String.ofList (stripChars s.toList)

end ChapterTex.FrontMatter
