/-!
Addresses of figures. Vector graphics are printed from the file that the build makes of them, which
lies in a directory of its own and has another suffix.
-/
namespace ChapterTex.Figure

def imageDir : List Char := "img/".toList

def generatedDir : List Char := "img/generated/".toList

/-- The address without the suffix of a vector graphic. -/
def withoutSvg? (url : List Char) : Option (List Char) :=
  let suffix := ".svg".toList
  if suffix.isSuffixOf url then some (url.take (url.length - suffix.length)) else none

/-- The address in the directory of generated images, for addresses in the image directory. -/
def generated (url : List Char) : List Char :=
  if imageDir.isPrefixOf url then generatedDir ++ url.drop imageDir.length else url

def printedChars (url : List Char) : List Char :=
  match withoutSvg? url with
  | some stem => generated stem ++ ".pdf".toList
  | none => url

def printed (url : String) : String := String.ofList (printedChars url.toList)

end ChapterTex.Figure
