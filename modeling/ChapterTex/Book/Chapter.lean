import ChapterTex.Book.Registry

/-!
Chapter files. Their names are two digits, an underscore, the slug and `.md`; the digits give the
order of the book, and the slug is the label of the chapter.
-/
namespace ChapterTex.Book

/-- The slug of a chapter file, and nothing for any other name. -/
def chapterSlug? (name : String) : Option String :=
  match name.toList with
  | a :: b :: '_' :: rest =>
    let slug := rest.takeWhile Text.isAsciiWord
    if a.isDigit && b.isDigit && !slug.isEmpty &&
        rest.dropWhile Text.isAsciiWord == ['.', 'm', 'd'] then
      some (String.ofList slug)
    else none
  | _ => none

def isChapterFile (name : String) : Bool := (chapterSlug? name).isSome

def chapterFiles (names : List String) : List String :=
  (names.filter isChapterFile).mergeSort fun a b => decide (a ≤ b)

/-- The chapter order of a directory that holds files of these names. -/
def discover (names : List String) : Registry :=
  Registry.ofList ((chapterFiles names).filterMap chapterSlug?)

/-- The label of documents whose file name has no chapter number. -/
def fallbackLabel : String := "hints"

/-- The label of a document: what stands between its chapter number and the first point. -/
def chapterLabel (name : String) : String :=
  match name.toList with
  | a :: b :: '_' :: rest =>
    let label := rest.takeWhile (· != '.')
    if Text.isDecimalDigit a && Text.isDecimalDigit b && !label.isEmpty then String.ofList label
    else fallbackLabel
  | _ => fallbackLabel

/-- Front matter is numbered `00` and has a heading without a number. -/
def isFrontMatter (name : String) : Bool := ['0', '0'].isPrefixOf name.toList

end ChapterTex.Book
