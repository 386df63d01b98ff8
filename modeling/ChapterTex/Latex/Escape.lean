import ChapterTex.Datum.Display
import ChapterTex.Failure

/-!
Escaping for LaTeX. Ordinary text has every reserved character replaced by a sequence that prints
it; verbatim code has only its delimiter escaped. Text that is already escaped is escaped no
further.
-/
namespace ChapterTex.Latex

/-- The characters with a meaning of their own in ordinary text. -/
def reserved : List Char := ['&', '%', '$', '#', '_', '{', '}', '~', '^', '\\']

def isReserved (c : Char) : Bool := reserved.contains c

/-- The sequence that prints a reserved character. Named sequences end in a space, so that they do
not swallow the letter after them. -/
def sequence : Char → List Char
  | '~' => "\\textasciitilde ".toList
  | '^' => "\\textasciicircum ".toList
  | '\\' => "\\textbackslash ".toList
  | c => ['\\', c]

def escapeChar (c : Char) : List Char := if isReserved c then sequence c else [c]

def escapeChars (s : List Char) : List Char := s.flatMap escapeChar

/-- Ordinary text with its reserved characters escaped. -/
def escape (s : String) : String := String.ofList (escapeChars s.toList)

def verbatimChar (c : Char) : List Char := if c == '`' then ['\\', '`'] else [c]

def verbatimChars (s : List Char) : List Char := s.flatMap verbatimChar

/-- Code for an inline verbatim command, of which the backtick is the delimiter. -/
def escapeVerbatim (s : String) : String := String.ofList (verbatimChars s.toList)

/-- The sequence for a text that is taken as one reserved character. -/
def sequenceText (s : String) : String :=
  match s.toList with
  | [c] => String.ofList (sequence c)
  | _ => "\\" ++ s

@[simp] theorem escapeChars_nil : escapeChars [] = [] := rfl

@[simp] theorem escapeChars_append (s t : List Char) :
    escapeChars (s ++ t) = escapeChars s ++ escapeChars t := by
  simp [escapeChars]

@[simp] theorem verbatimChars_append (s t : List Char) :
    verbatimChars (s ++ t) = verbatimChars s ++ verbatimChars t := by
  simp [verbatimChars]

theorem toList_escape (s : String) : (escape s).toList = escapeChars s.toList := by
  simp [escape]

theorem escape_append (s t : String) : escape (s ++ t) = escape s ++ escape t := by
  rw [← String.toList_inj]
  simp [toList_escape]

/-- Escapes a text, and leaves escaped text alone. Only texts can be escaped. -/
def escapeDatum : Datum → Except Failure Datum
  | .latex s => .ok (.latex s)
  | .text s => .ok (.latex (escape s))
  | _ => .error .wrongKind

/-- Escapes code, also if it is marked as escaped. -/
def escapeVerbatimDatum : Datum → Except Failure Datum
  | .latex s | .text s => .ok (.latex (escapeVerbatim s))
  | _ => .error .wrongKind

theorem escapeDatum_text (s : String) : escapeDatum (.text s) = .ok (.latex (escape s)) := rfl

theorem escapeDatum_latex (s : String) : escapeDatum (.latex s) = .ok (.latex s) := rfl

end ChapterTex.Latex
