import ChapterTex.Text.Quoted

/-!
Faults of a byte sequence that is not UTF-8.
-/
namespace ChapterTex.Text.Utf8

inductive Cause where
  | startByte
  | continuationByte
  | endOfData
deriving Repr, DecidableEq

def Cause.message : Cause → String
  | startByte => "invalid start byte"
  | continuationByte => "invalid continuation byte"
  | endOfData => "unexpected end of data"

/-- `count` bytes from `position` on, of which the first is `byte`, do not encode a character. -/
structure Fault where
  cause : Cause
  byte : UInt8
  position : Nat
  count : Nat
deriving Repr, DecidableEq

def Fault.message (f : Fault) : String :=
  let place :=
    if f.count == 1 then
      "byte 0x" ++ String.ofList (hexDigits 2 f.byte.toNat) ++ " in position " ++
        toString f.position
    else
      "bytes in position " ++ toString f.position ++ "-" ++ toString (f.position + f.count - 1)
  "'utf-8' codec can't decode " ++ place ++ ": " ++ f.cause.message

end ChapterTex.Text.Utf8
