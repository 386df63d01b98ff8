/-!
Why a JSON text is not read: its faults, each with the place where reading stopped, and what is JSON
and is not read all the same.
-/
namespace ChapterTex.Json

inductive Cause where
  | expectingValue
  | expectingName
  | expectingColon
  | expectingComma
  | extraData
  | unterminatedString
  | controlCharacter
  | invalidEscape
  | invalidUnicodeEscape
  | byteOrderMark
deriving Repr, DecidableEq

def Cause.message : Cause → String
  | expectingValue => "Expecting value"
  | expectingName => "Expecting property name enclosed in double quotes"
  | expectingColon => "Expecting ':' delimiter"
  | expectingComma => "Expecting ',' delimiter"
  | extraData => "Extra data"
  | unterminatedString => "Unterminated string starting at"
  | controlCharacter => "Invalid control character at"
  | invalidEscape => "Invalid \\escape"
  | invalidUnicodeEscape => "Invalid \\uXXXX escape"
  | byteOrderMark => "Unexpected UTF-8 BOM (decode using utf-8-sig)"

/-- A cause and its place: lines and columns count from one, offsets from zero. -/
structure Fault where
  cause : Cause
  line : Nat
  column : Nat
  offset : Nat
deriving Repr, DecidableEq

namespace Fault

def ofOffset (cause : Cause) (text : List Char) (offset : Nat) : Fault :=
  let before := text.take offset
  { cause
    line := 1 + before.count '\n'
    column := (before.reverse.takeWhile (· != '\n')).length + 1
    offset }

def message (f : Fault) : String :=
  f.cause.message ++ ": line " ++ toString f.line ++ " column " ++ toString f.column
    ++ " (char " ++ toString f.offset ++ ")"

end Fault

/-- The number of digits that an integer may have. -/
def maxDigits : Nat := 4300

inductive Refusal where
  /-- It is not JSON. -/
  | fault (fault : Fault)
  /-- It has an integer of so many digits, which are too many. -/
  | digits (count : Nat)
  /-- It escapes half of a surrogate pair, which is no character. -/
  | halfPair
deriving Repr, DecidableEq

end ChapterTex.Json
