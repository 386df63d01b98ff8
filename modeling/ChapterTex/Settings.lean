import ChapterTex.Files.Path

/-!
Settings from the environment. A variable that is empty counts as unset.
-/
namespace ChapterTex

structure Environment where
  chaptersDir : Option String := none
  figureWidth : Option String := none
deriving Repr, DecidableEq

namespace Environment

def chaptersDirName : String := "MDTEX_CHAPTERS_DIR"

def figureWidthName : String := "MDTEX_FIGURE_WIDTH"

def nonempty? (s : Option String) : Option String := s.filter (· != "")

/-- The directory of the book, or else the given one. -/
def chaptersDir? (env : Environment) (default : Option Path) : Option Path :=
  match nonempty? env.chaptersDir with
  | some dir => some (Path.ofString dir)
  | none => default

def width (env : Environment) : String := (nonempty? env.figureWidth).getD "10cm"

end Environment
end ChapterTex
