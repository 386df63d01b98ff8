import ChapterTex.Json.Reader
import ChapterTex.Markdown.Entity.Table
import ChapterTex.Text.Punctuation

/-!
Character references, named and numeric, and backslash escapes. In a link both are replaced at once.
-/
namespace ChapterTex.Markdown.Entity

/-- A number is a character unless it is a surrogate, a control character other than a blank one, or
no character at all. -/
def isValid (n : Nat) : Bool :=
  !(decide (0xD800 ≤ n) && decide (n ≤ 0xDFFF)) &&
  !(decide (0xFDD0 ≤ n) && decide (n ≤ 0xFDEF)) &&
  n % 0x10000 != 0xFFFF && n % 0x10000 != 0xFFFE &&
  !decide (n ≤ 0x8) && n != 0xB &&
  !(decide (0xE ≤ n) && decide (n ≤ 0x1F)) &&
  !(decide (0x7F ≤ n) && decide (n ≤ 0x9F)) &&
  decide (n ≤ 0x10FFFF)

/-- The code points of an entry, which are separated by plus signs. -/
def codePoints (current : Nat) : List Char → List Nat
  | [] => [current]
  | c :: rest =>
    if c == '+' then current :: codePoints 0 rest
    else codePoints (current * 16 + (Json.hexValue? c).getD 0) rest

/-- Finds a name in a table of entries that end in semicolons. `fuel` is at least the length. -/
def find? (name : List Char) : Nat → List Char → Option (List Char)
  | 0, _ => none
  | fuel + 1, table =>
    match table with
    | [] => none
    | table =>
      match Json.afterWord? name table with
      | some (' ' :: value) => some ((codePoints 0 (value.takeWhile (· != ';'))).map Char.ofNat)
      | _ => find? name fuel ((table.dropWhile (· != ';')).drop 1)

def named? (name : List Char) : Option (List Char) :=
  match name with
  | [] => none
  | c :: _ =>
    let table := (table c).toList
    find? name table.length table

/-- The number of a numeric reference, written after `#` in decimal or after `#x` in hexadecimal,
with limits on the number of digits. -/
def number? (decimals hexadecimals : Nat) : List Char → Option Nat
  | '#' :: digits =>
    match digits with
    | x :: hex =>
      if x == 'x' || x == 'X' then
        if hex.isEmpty || decide (hexadecimals < hex.length) then none else Json.hexNumber? hex
      else if digits.all Char.isDigit && decide (digits.length ≤ decimals) then
        some (Json.decimalNumber digits)
      else none
    | [] => none
  | _ => none

def body? (s : List Char) : Option (List Char × List Char) :=
  match s.dropWhile (· != ';') with
  | ';' :: rest => some (s.takeWhile (· != ';'), rest)
  | _ => none

/-- A name starts with a letter and has two to thirty-two letters and digits. -/
def isName (name : List Char) : Bool :=
  (name.head?.any Char.isAlpha) && name.all Char.isAlphanum &&
    decide (2 ≤ name.length) && decide (name.length ≤ 32)

/-- A reference at the front of a text, after its ampersand: what it stands for, and its body. A
number that is no character stands for the replacement character. -/
def reference? (s : List Char) : Option (List Char × List Char) := do
  let (body, _) ← body? (s.take 40)
  match number? 7 6 body with
  | some n => return ([if isValid n then Char.ofNat n else '\ufffd'], body)
  | none =>
    if isName body then return (← named? body, body) else none

/-- A reference inside a link, after its ampersand. A number that is no character is left as it
is. -/
def linkReference? (s : List Char) : Option (List Char × List Char) := do
  let (body, _) ← body? (s.take 40)
  match number? 8 8 body with
  | some n => if isValid n then return ([Char.ofNat n], body) else none
  | none =>
    if isName body then return (← named? body, body) else none

/-- Replaces escapes and references. `skip` characters belong to a construct that was replaced. -/
def unescapeFrom : Nat → List Char → List Char
  | _, [] => []
  | skip + 1, _ :: rest => unescapeFrom skip rest
  | 0, c :: rest =>
    if c == '\\' && rest.head?.any Text.isAsciiPunctuation then
      match rest with
      | d :: _ => d :: unescapeFrom 1 rest
      | [] => [c]
    else if c == '&' then
      match linkReference? rest with
      | some (image, body) => image ++ unescapeFrom (body.length + 1) rest
      | none => c :: unescapeFrom 0 rest
    else c :: unescapeFrom 0 rest

def unescape (s : List Char) : List Char := unescapeFrom 0 s

end ChapterTex.Markdown.Entity
