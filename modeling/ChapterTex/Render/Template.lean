import ChapterTex.Token.Basic
import ChapterTex.Text.Blank
import ChapterTex.Text.Word

/-!
The fixed parts of the output: what tokens without parameters print, the sectioning commands, and
the mark of code that is left out of print.
-/
namespace ChapterTex

/-- What a token prints whose output depends on nothing but its kind. -/
def TokenKind.template? : TokenKind → Option String
  | paragraphClose => some ""
  | headingClose => some "\x7d"
  | bulletListOpen => some "\n\n\\begin\x7bitemize\x7d"
  | bulletListClose => some "\n\\end\x7bitemize\x7d"
  | orderedListOpen => some "\n\n\\begin\x7benumerate\x7d"
  | orderedListClose => some "\n\\end\x7benumerate\x7d"
  | listItemOpen => some "\n\\item "
  | listItemClose => some ""
  | tableOpen => some "\n\n\\noindent\\begin\x7btabular\x7d\x7bll\x7d"
  | tableClose => some "\n\\end\x7btabular\x7d"
  | theadOpen => some ""
  | theadClose => some ""
  | tbodyOpen => some ""
  | tbodyClose => some ""
  | trOpen => some ""
  | trClose => some "\n\\tabularnewline"
  | thOpen => some "\n"
  | tdOpen => some "\n"
  | strongOpen => some "\\textbf\x7b"
  | strongClose => some "\x7d"
  | emOpen => some "\\emph\x7b"
  | emClose => some "\x7d"
  | subOpen => some "\\textsubscript\x7b"
  | subClose => some "\x7d"
  | supOpen => some "\\textsuperscript\x7b"
  | supClose => some "\x7d"
  | hardbreak => some "\\break\n"
  | softbreak => some " "
  | metaHintOpen => some ""
  | metaHintClose => some ""
  | _ => none

def sectionCommand? (tag : String) : Option String :=
  if tag == "h2" then some "section"
  else if tag == "h3" then some "subsection"
  else if tag == "h4" then some "subsubsection"
  else none

/-- Whether a text goes on with `hidden:`, blanks, and `true`. -/
def marksHidden (s : List Char) : Bool :=
  let mark := "hidden:".toList
  mark.isPrefixOf s && "true".toList.isPrefixOf ((s.drop mark.length).dropWhile Text.isBlank)

/-- Whether the mark of hidden code occurs, not inside a word. `inWord` tells that the character
before is part of a word. -/
def hiddenFrom (inWord : Bool) : List Char → Bool
  | [] => false
  | c :: rest => (!inWord && marksHidden (c :: rest)) || hiddenFrom (Text.isWord c) rest

/-- Whether code with this information is left out of print. -/
def isHidden (info : String) : Bool := hiddenFrom false info.toList

end ChapterTex
