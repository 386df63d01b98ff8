/-!
Control sequences, by which a text sets the colours and the cursor of a terminal. A stream that is
no terminal gets texts without them.
-/
namespace ChapterTex.Text

/-- Whether a character may stand between the bracket and the letter of a control sequence. -/
def isParameter (c : Char) : Bool := c == ';' || c == '?' || c.isDigit

/-- The length of the control sequence at the start of a text: an escape, a bracket, parameters, and
one letter. -/
def controlLength? : List Char → Option Nat
  | '\x1b' :: '[' :: rest =>
    match rest.dropWhile isParameter with
    | c :: _ => if c.isAlpha then some ((rest.takeWhile isParameter).length + 3) else none
    | [] => none
  | _ => none

/-- Drops the control sequences of a text. `skip` characters belong to one that was found. -/
def withoutControlsFrom : Nat → List Char → List Char
  | _, [] => []
  | skip + 1, _ :: rest => withoutControlsFrom skip rest
  | 0, c :: rest =>
    match controlLength? (c :: rest) with
    | some n => withoutControlsFrom (n - 1) rest
    | none => c :: withoutControlsFrom 0 rest

def withoutControls (s : String) : String := String.ofList (withoutControlsFrom 0 s.toList)

end ChapterTex.Text
