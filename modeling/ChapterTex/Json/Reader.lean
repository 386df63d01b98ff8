import ChapterTex.Datum.Display
import ChapterTex.Json.Fault

/-!
Reading of JSON texts. Besides the standard values `NaN` and the infinities are numbers. Of a name
that occurs twice in an object the later value stands, in the place of the earlier one. Integers
have a greatest number of digits. There is no limit to the depth of nesting, and texts are made of
characters only: where a string escapes half of a surrogate pair, nothing is read.
-/
namespace ChapterTex.Json

inductive Stop where
  /-- At a fault, with a number of characters from there to the end. -/
  | fault (cause : Cause) (left : Nat)
  | digits (count : Nat)
  | halfPair

/-- A reader takes a value from the front of a text and leaves the rest. -/
abbrev Reader (α : Type) := List Char → Except Stop (α × List Char)

/-- A fault in front of the given rest. -/
def stop {α : Type} (cause : Cause) (rest : List Char) : Except Stop α :=
  .error (.fault cause rest.length)

def isSpace (c : Char) : Bool := c == ' ' || c == '\t' || c == '\n' || c == '\r'

def skipSpace (s : List Char) : List Char := s.dropWhile isSpace

/-- The rest of a text after the given word, if the text starts with it. -/
def afterWord? : List Char → List Char → Option (List Char)
  | [], rest => some rest
  | _ :: _, [] => none
  | w :: word, c :: rest => if c == w then afterWord? word rest else none

def hexValue? (c : Char) : Option Nat :=
  if c.isDigit then some (c.toNat - 48)
  else if 'a' ≤ c ∧ c ≤ 'f' then some (c.toNat - 87)
  else if 'A' ≤ c ∧ c ≤ 'F' then some (c.toNat - 55)
  else none

def hexNumber? (s : List Char) : Option Nat :=
  s.foldl (fun n c => do return (← n) * 16 + (← hexValue? c)) (some 0)

def decimalNumber (s : List Char) : Nat := s.foldl (fun n c => n * 10 + (c.toNat - 48)) 0

def isHighSurrogate (n : Nat) : Bool := decide (0xD800 ≤ n) && decide (n < 0xDC00)

def isLowSurrogate (n : Nat) : Bool := decide (0xDC00 ≤ n) && decide (n < 0xE000)

/-- The character of a code unit. -/
def unitChar (n : Nat) : Except Stop Char :=
  if isHighSurrogate n || isLowSurrogate n then .error .halfPair else .ok (Char.ofNat n)

/-- The character of a four digit escape, read after `\u`. A high surrogate takes the low surrogate
of a following escape with it. At least one character has to follow the digits. -/
def unicodeEscape : Reader Char := fun s =>
  let invalid := Except.error (Stop.fault .invalidUnicodeEscape (s.length + 1))
  if s.length < 5 then invalid
  else
    match hexNumber? (s.take 4) with
    | none => invalid
    | some n =>
      let rest := s.drop 4
      if isHighSurrogate n && decide (6 < rest.length) then
        match afterWord? ['\\', 'u'] rest with
        | none => (·, rest) <$> unitChar n
        | some tail =>
          match hexNumber? (tail.take 4) with
          | none => .error (.fault .invalidUnicodeEscape (tail.length + 1))
          | some m =>
            if isLowSurrogate m then
              .ok (Char.ofNat (0x10000 + (n - 0xD800) * 0x400 + (m - 0xDC00)), tail.drop 4)
            else (·, rest) <$> unitChar n
      else (·, rest) <$> unitChar n

def shortEscape? (c : Char) : Option Char :=
  match c with
  | '"' => some '"'
  | '\\' => some '\\'
  | '/' => some '/'
  | 'b' => some '\x08'
  | 'f' => some '\x0c'
  | 'n' => some '\n'
  | 'r' => some '\r'
  | 't' => some '\t'
  | _ => none

/-- The characters of a string up to its closing quote. `opened` characters were left at the opening
quote; `fuel` is at least the number of characters. -/
def stringFrom (opened : Nat) : Nat → Reader (List Char)
  | 0, _ => .error (.fault .unterminatedString opened)
  | _ + 1, [] => .error (.fault .unterminatedString opened)
  | fuel + 1, c :: rest =>
    if c == '"' then .ok ([], rest)
    else if c == '\\' then
      match rest with
      | [] => .error (.fault .unterminatedString opened)
      | 'u' :: digits => do
        let (d, rest) ← unicodeEscape digits
        let (s, rest) ← stringFrom opened fuel rest
        return (d :: s, rest)
      | e :: rest =>
        match shortEscape? e with
        | none => stop .invalidEscape (c :: e :: rest)
        | some d => do
          let (s, rest) ← stringFrom opened fuel rest
          return (d :: s, rest)
    else if c.toNat < 32 then stop .controlCharacter (c :: rest)
    else do
      let (s, rest) ← stringFrom opened fuel rest
      return (c :: s, rest)

def string : Reader String := fun s => do
  let (cs, rest) ← stringFrom (s.length + 1) (s.length + 1) s
  return (String.ofList cs, rest)

/-- A fraction: a point and at least one digit. -/
def fraction? (s : List Char) : Option (List Char × List Char) :=
  match s with
  | '.' :: rest =>
    let digits := rest.takeWhile Char.isDigit
    if digits.isEmpty then none else some (digits, rest.dropWhile Char.isDigit)
  | _ => none

/-- An exponent: its mark, a sign or none, and at least one digit. -/
def exponent? (s : List Char) : Option (Int × List Char) :=
  match s with
  | e :: rest =>
    if e == 'e' || e == 'E' then
      let (negative, rest) :=
        match rest with
        | '-' :: rest => (true, rest)
        | '+' :: rest => (false, rest)
        | rest => (false, rest)
      let digits := rest.takeWhile Char.isDigit
      if digits.isEmpty then none
      else
        let n : Int := decimalNumber digits
        some (if negative then -n else n, rest.dropWhile Char.isDigit)
    else none
  | [] => none

/-- The digits before the point: zero alone, or a number that does not start with zero. -/
def whole? (s : List Char) : Option (List Char × List Char) :=
  match s with
  | '0' :: rest => some (['0'], rest)
  | c :: _ =>
    if c.isDigit then some (s.takeWhile Char.isDigit, s.dropWhile Char.isDigit) else none
  | [] => none

/-- The longest number at the front of a text. It is a float if it has a fraction or an exponent. -/
def number? (s : List Char) : Option (Except Stop (Datum × List Char)) := do
  let (negative, unsigned) := match s with
    | '-' :: rest => (true, rest)
    | s => (false, s)
  let (digits, rest) ← whole? unsigned
  let fraction := fraction? rest
  let (places, rest) := fraction.getD ([], rest)
  let exponent := exponent? rest
  let (power, rest) := exponent.getD (0, rest)
  if fraction.isNone && exponent.isNone then
    if maxDigits < digits.length then return .error (.digits digits.length)
    let n : Int := decimalNumber digits
    return .ok (.int (if negative then -n else n), rest)
  else
    let x := Decimal.toFloat ⟨decimalNumber (digits ++ places), power - places.length⟩
    return .ok (.float (if negative then -x else x), rest)

def words : List (List Char × Datum) :=
  [("null".toList, .null), ("true".toList, .bool true), ("false".toList, .bool false),
    ("NaN".toList, .float (0 / 0)), ("Infinity".toList, .float (1 / 0)),
    ("-Infinity".toList, .float (-1 / 0))]

def scalar : Reader Datum := fun s =>
  match words.findSome? fun w => (afterWord? w.1 s).map fun rest => (w.2, rest) with
  | some found => .ok found
  | none =>
    match number? s with
    | some read => read
    | none => stop .expectingValue s

mutual

/-- A value. `fuel` is larger than twice the number of characters: a list that is opened takes one
unit for itself and one for its first item. -/
def valueWithin : Nat → Reader Datum
  | 0, s => stop .expectingValue s
  | fuel + 1, s =>
    match s with
    | '"' :: rest => do
      let (t, rest) ← string rest
      return (.text t, rest)
    | '[' :: rest =>
      match skipSpace rest with
      | ']' :: rest => .ok (.list [], rest)
      | rest => do
        let (items, rest) ← itemsWithin fuel rest
        return (.list items, rest)
    | '{' :: rest =>
      match skipSpace rest with
      | '}' :: rest => .ok (.dict [], rest)
      | rest => do
        let (fields, rest) ← fieldsWithin fuel [] rest
        return (.dict fields, rest)
    | s => scalar s

def itemsWithin : Nat → Reader (List Datum)
  | 0, s => stop .expectingValue s
  | fuel + 1, s => do
    let (item, rest) ← valueWithin fuel s
    match skipSpace rest with
    | ']' :: rest => return ([item], rest)
    | ',' :: rest =>
      let (items, rest) ← itemsWithin fuel (skipSpace rest)
      return (item :: items, rest)
    | rest => stop .expectingComma rest

/-- The fields of an object up to its closing brace, added to those that were read. -/
def fieldsWithin : Nat → Record Datum → Reader (Record Datum)
  | 0, _, s => stop .expectingName s
  | fuel + 1, fields, s =>
    match s with
    | '"' :: rest => do
      let (name, rest) ← string rest
      match skipSpace rest with
      | ':' :: rest =>
        let (value, rest) ← valueWithin fuel (skipSpace rest)
        let fields := fields.put name value
        match skipSpace rest with
        | '}' :: rest => return (fields, rest)
        | ',' :: rest => fieldsWithin fuel fields (skipSpace rest)
        | rest => stop .expectingComma rest
      | rest => stop .expectingColon rest
    | rest => stop .expectingName rest

end

/-- The one value of a document. -/
def documentWithin (fuel : Nat) : Reader Datum := fun s => do
  let (value, rest) ← valueWithin fuel (skipSpace s)
  match skipSpace rest with
  | [] => return (value, [])
  | rest => stop .extraData rest

def document : Reader Datum := fun s => documentWithin (2 * s.length + 1) s

/-- The value that a JSON text denotes. -/
def parse (text : String) : Except Refusal Datum :=
  let s := text.toList
  match s with
  | '\ufeff' :: _ => .error (.fault (Fault.ofOffset .byteOrderMark s 0))
  | _ =>
    match document s with
    | .ok (value, _) => .ok value
    | .error (.fault cause left) => .error (.fault (Fault.ofOffset cause s (s.length - left)))
    | .error (.digits count) => .error (.digits count)
    | .error .halfPair => .error .halfPair

end ChapterTex.Json
