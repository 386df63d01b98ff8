import ChapterTex.Text.Utf8.Fault

/-!
Strict decoding of UTF-8. Every character has one encoding, the shortest; surrogates and numbers
beyond the last code point have none. The first fault ends the decoding.
-/
namespace ChapterTex.Text.Utf8

/-- Outcome of reading one character: the character and its number of bytes, or the cause of the
fault and the number of bytes at fault. -/
abbrev Step := Except (Cause × Nat) (Char × Nat)

/-- The six bits of a continuation byte. -/
def low (b : UInt8) : Nat := b.toNat % 64

def isContinuation (b : UInt8) : Bool := b.toNat / 64 == 2

/-- The second byte of a long form excludes surrogates, overlong forms and numbers out of range. -/
def isSecond (first second : UInt8) : Bool :=
  isContinuation second &&
    match first.toNat with
    | 0xE0 => decide (0xA0 ≤ second.toNat)
    | 0xED => decide (second.toNat < 0xA0)
    | 0xF0 => decide (0x90 ≤ second.toNat)
    | 0xF4 => decide (second.toNat < 0x90)
    | _ => true

/-- Reads the character that starts with the first byte. -/
def step (first : UInt8) (rest : List UInt8) : Step :=
  let n := first.toNat
  if n < 0x80 then .ok (Char.ofNat n, 1)
  else if n < 0xC2 then .error (.startByte, 1)
  else if n < 0xE0 then
    match rest with
    | [] => .error (.endOfData, 1)
    | b :: _ =>
      if isContinuation b then .ok (Char.ofNat (n % 32 * 64 + low b), 2)
      else .error (.continuationByte, 1)
  else if n < 0xF0 then
    match rest with
    | [] => .error (.endOfData, 1)
    | b :: rest =>
      if !isSecond first b then .error (.continuationByte, 1)
      else match rest with
        | [] => .error (.endOfData, 2)
        | c :: _ =>
          if isContinuation c then .ok (Char.ofNat (n % 16 * 4096 + low b * 64 + low c), 3)
          else .error (.continuationByte, 2)
  else if n < 0xF5 then
    match rest with
    | [] => .error (.endOfData, 1)
    | b :: rest =>
      if !isSecond first b then .error (.continuationByte, 1)
      else match rest with
        | [] => .error (.endOfData, 2)
        | c :: rest =>
          if !isContinuation c then .error (.continuationByte, 2)
          else match rest with
            | [] => .error (.endOfData, 3)
            | d :: _ =>
              if isContinuation d then
                .ok (Char.ofNat (n % 8 * 262144 + low b * 4096 + low c * 64 + low d), 4)
              else .error (.continuationByte, 3)
  else .error (.startByte, 1)

/-- Decodes the bytes from a position on. `skip` bytes belong to a character that was read. -/
def decodeFrom (position : Nat) : Nat → List UInt8 → Except Fault (List Char)
  | _, [] => .ok []
  | skip + 1, _ :: rest => decodeFrom (position + 1) skip rest
  | 0, first :: rest =>
    match step first rest with
    | .error (cause, count) => .error ⟨cause, first, position, count⟩
    | .ok (c, count) => do
      let cs ← decodeFrom (position + 1) (count - 1) rest
      return c :: cs

def decode (bytes : List UInt8) : Except Fault (List Char) := decodeFrom 0 0 bytes

def encodeChar (c : Char) : List UInt8 :=
  let n := c.toNat
  let tail (k : Nat) : UInt8 := UInt8.ofNat (128 + n / k % 64)
  if n < 0x80 then [UInt8.ofNat n]
  else if n < 0x800 then [UInt8.ofNat (0xC0 + n / 64), tail 1]
  else if n < 0x10000 then [UInt8.ofNat (0xE0 + n / 4096), tail 64, tail 1]
  else [UInt8.ofNat (0xF0 + n / 262144), tail 4096, tail 64, tail 1]

def encode (s : List Char) : List UInt8 := s.flatMap encodeChar

/-- A carriage return, alone or before a line feed, ends a line as a line feed does. -/
def unifyLineEnds : List Char → List Char
  | [] => []
  | '\r' :: '\n' :: rest => '\n' :: unifyLineEnds rest
  | c :: rest => (if c == '\r' then '\n' else c) :: unifyLineEnds rest

end ChapterTex.Text.Utf8
