import ChapterTex.Latex.Escape

/-!
Index directives. A term is a text or a sequence of levels, from the main entry inward, which are
joined by `!`.
-/
namespace ChapterTex.Latex

/-- One level of an index term: escaped text as it is, the text of any other value escaped. -/
def levelText : Datum → String
  | .latex s => s
  | d => escape d.display

def termText : Datum → String
  | .list levels | .tuple levels => "!".intercalate (levels.map levelText)
  | d => levelText d

def indexEntry (term : Datum) : String := "\\index\x7b" ++ termText term ++ "\x7d"

/-- One directive for each term. -/
def indexEntries (terms : List Datum) : String := String.join (terms.map indexEntry)

/-- A directive that sends the reader from one term to another. -/
def indexSee (term target : Datum) : String :=
  "\\index\x7b" ++ termText term ++ "|see\x7b" ++ termText target ++ "\x7d\x7d"

@[simp] theorem levelText_latex (s : String) : levelText (.latex s) = s := rfl

end ChapterTex.Latex
