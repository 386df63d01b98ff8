import ChapterTex.Json.Reader
import ChapterTex.Text.Blank
import ChapterTex.Text.Pieces
import ChapterTex.Text.Quoted
import ChapterTex.Text.Utf8.Decode

/-!
Addresses of links. An address is taken apart, put together and percent-encoded, which leaves most
addresses as they are; addresses that would run a program or read a file are refused.
-/
namespace ChapterTex.Markdown

structure Url where
  scheme : List Char := []
  slashes : Bool := false
  auth : List Char := []
  port : List Char := []
  host : List Char := []
  path : List Char := []
  search : List Char := []
  fragment : List Char := []
deriving Repr, DecidableEq

namespace Url

def isSchemeChar (c : Char) : Bool := c.isAlphanum || c == '.' || c == '+' || c == '-'

def splitScheme (s : List Char) : List Char × List Char :=
  let name := s.takeWhile isSchemeChar
  match s.dropWhile isSchemeChar with
  | ':' :: rest => if name.isEmpty then ([], s) else (name ++ [':'], rest)
  | _ => ([], s)

/-- Schemes whose addresses have no host. -/
def hasNoHost (scheme : List Char) : Bool := String.ofList scheme == "javascript:"

/-- Schemes whose addresses have a host only after two slashes. -/
def needsSlashes (scheme : List Char) : Bool :=
  ["http:", "https:", "ftp:", "gopher:", "file:"].contains (String.ofList scheme)

def endsAuthority (c : Char) : Bool := c == '/' || c == '?' || c == '#'

def endsHost (c : Char) : Bool := "%/?;#'\x7b\x7d|\\^`<>\" \r\n\t".toList.contains c

def splitLast? (c : Char) : List Char → Option (List Char × List Char)
  | [] => none
  | d :: rest =>
    match splitLast? c rest with
    | some (before, after) => some (d :: before, after)
    | none => if d == c then some ([], rest) else none

/-- Splits off the user, which ends at the last `@` before the authority ends. -/
def splitAuth (s : List Char) : List Char × List Char :=
  let authority := s.takeWhile fun c => !endsAuthority c
  match splitLast? '@' authority with
  | some (auth, rest) => (auth, rest ++ s.dropWhile fun c => !endsAuthority c)
  | none => ([], s)

/-- Splits off the host, without a colon at its end. -/
def splitHost (s : List Char) : List Char × List Char :=
  let host := s.takeWhile fun c => !endsHost c
  let rest := s.dropWhile fun c => !endsHost c
  if host.getLast? == some ':' then (host.dropLast, ':' :: rest) else (host, rest)

/-- Splits off a port: digits behind the last colon. -/
def splitPort (s : List Char) : List Char × List Char :=
  match splitLast? ':' s with
  | some (host, port) =>
    if port.all Char.isDigit then (host, port) else (s, [])
  | none => (s, [])

def isHostChar (c : Char) : Bool := c.isAlphanum || c == '+' || c == '-' || c == '_'

/-- A label of a host name, in which any character beyond ASCII is admitted. -/
def isHostLabel (s : List Char) : Bool :=
  s.all (fun c => isHostChar c || decide (127 < c.toNat)) && decide (s.length ≤ 63)

/-- The labels of a host name up to the first that is none, and what follows in it. -/
def validLabels : List (List Char) → List (List Char) × Option (List Char)
  | [] => ([], none)
  | label :: rest =>
    if isHostLabel label then
      let (valid, tail) := validLabels rest
      (label :: valid, tail)
    else
      let kept := (label.take 63).takeWhile isHostChar
      ([kept], some (['.'].intercalate (label.drop kept.length :: rest)))

/-- A host name without its invalid end, which is part of the path. A name in brackets is a
number. -/
def checkHost (host rest : List Char) : List Char × List Char :=
  let bracketed := host.head? == some '[' && host.getLast? == some ']'
  let (host, rest) :=
    if bracketed then (host, rest)
    else
      match validLabels (Text.pieces '.' host) with
      | (labels, tail) => (['.'].intercalate labels, tail.getD [] ++ rest)
  let host := if 255 < host.length then [] else host
  (if bracketed then (host.drop 1).dropLast else host, rest)

def parse (s : List Char) : Url :=
  let (scheme, rest) := splitScheme (Text.trim s)
  let slashes := ['/', '/'].isPrefixOf rest && !hasNoHost scheme
  let rest := if slashes then rest.drop 2 else rest
  let hosted := !hasNoHost scheme && (slashes || (!scheme.isEmpty && !needsSlashes scheme))
  let (auth, rest) := if hosted then splitAuth rest else ([], rest)
  let (host, rest) := if hosted then splitHost rest else ([], rest)
  let (host, port) := splitPort host
  let (host, rest) := if hosted then checkHost host rest else ([], rest)
  let fragment := rest.dropWhile (· != '#')
  let rest := rest.takeWhile (· != '#')
  let search := rest.dropWhile (· != '?')
  let path := rest.takeWhile (· != '?')
  { scheme, slashes, auth, port, host, path, search, fragment }

def format (u : Url) : List Char :=
  u.scheme
    ++ (if u.slashes then ['/', '/'] else [])
    ++ (if u.auth.isEmpty then [] else u.auth ++ ['@'])
    ++ (if u.host.contains ':' then '[' :: u.host ++ [']'] else u.host)
    ++ (if u.port.isEmpty then [] else ':' :: u.port)
    ++ u.path ++ u.search ++ u.fragment

def percent (n : Nat) : List Char := '%' :: (Text.hexDigits 2 n).map Char.toUpper

def isPlain (c : Char) : Bool := c.isAlphanum || ";/?:@&=+$,-_.!~*'()#".toList.contains c

/-- Encodes the bytes of all characters that are not plain. What is encoded already stays. -/
def encode : List Char → List Char
  | [] => []
  | c :: rest =>
    if c == '%' && ((rest.take 2).all fun d => (Json.hexValue? d).isSome)
        && decide (2 ≤ rest.length) then
      c :: encode rest
    else if isPlain c then c :: encode rest
    else (Text.Utf8.encodeChar c).flatMap (fun b => percent b.toNat) ++ encode rest

/-- The byte that a percent sign and two digits stand for, and the rest. -/
def encodedByte? : List Char → Option (UInt8 × List Char)
  | '%' :: a :: b :: rest => do
    let n := (← Json.hexValue? a) * 16 + (← Json.hexValue? b)
    return (UInt8.ofNat n, rest)
  | _ => none

/-- The encoded bytes at the front of a text. `fuel` is at least its length. -/
def encodedBytes : Nat → List Char → List UInt8
  | 0, _ => []
  | fuel + 1, s =>
    match encodedByte? s with
    | some (b, rest) => b :: encodedBytes fuel rest
    | none => []

def staysEncoded (c : Char) : Bool := ";/?:@&=+$,#%".toList.contains c

/-- The bytes of the character that the first byte announces, if all the others continue it. -/
def sequenceLength (first : UInt8) (rest : List UInt8) : Nat :=
  let n := first.toNat
  let continued (k : Nat) : Bool :=
    decide (k ≤ rest.length) && (rest.take k).all Text.Utf8.isContinuation
  if n / 32 == 6 && continued 1 then 2
  else if n / 16 == 14 && continued 2 then 3
  else if n / 8 == 30 && continued 3 then 4
  else 1

/-- The text of a run of encoded bytes. Every byte that is part of no character becomes a
replacement character. -/
def decodeBytes : Nat → List UInt8 → List Char
  | _, [] => []
  | skip + 1, _ :: rest => decodeBytes skip rest
  | 0, first :: rest =>
    if first.toNat < 0x80 then
      let c := Char.ofNat first.toNat
      (if staysEncoded c then percent first.toNat else [c]) ++ decodeBytes 0 rest
    else
      let count := sequenceLength first rest
      match Text.Utf8.step first (rest.take (count - 1)) with
      | .ok (c, _) => c :: decodeBytes (count - 1) rest
      | .error _ => List.replicate count '\ufffd' ++ decodeBytes (count - 1) rest

/-- Decodes all runs of encoded bytes. `skip` characters belong to a run that was decoded. -/
def decodeFrom : Nat → List Char → List Char
  | _, [] => []
  | skip + 1, _ :: rest => decodeFrom skip rest
  | 0, c :: rest =>
    match encodedBytes (rest.length + 1) (c :: rest) with
    | [] => c :: decodeFrom 0 rest
    | bytes => decodeBytes 0 bytes ++ decodeFrom (3 * bytes.length - 1) rest

def decode (s : List Char) : List Char := decodeFrom 0 s

def normalize (s : List Char) : List Char := encode (parse s).format

def displayed (s : List Char) : List Char := decode (parse s).format

/-- Whether a link may have this address. Inline images are the only data that may be linked. -/
def isAllowed (s : List Char) : Bool :=
  let s := (Text.trim s).map Char.toLower
  let starts (w : String) : Bool := w.toList.isPrefixOf s
  if ["vbscript:", "javascript:", "file:", "data:"].any starts then
    ["data:image/gif;", "data:image/png;", "data:image/jpeg;", "data:image/webp;"].any starts
  else true

end Url
end ChapterTex.Markdown
