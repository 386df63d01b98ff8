import ChapterTex.Datum.Basic
import ChapterTex.Markdown.Url

/-!
Attribute blocks: identifiers, classes and named values between braces. An attribute that would
attach a program to an element is dropped.
-/
namespace ChapterTex.Markdown.Attribute

inductive Part where
  | id (name : List Char)
  | cls (name : List Char)
  | named (key value : List Char)
deriving Repr, DecidableEq

def isNameChar (c : Char) : Bool :=
  !Text.isBlank c && !"!\"#$%&'()*+,./;<=>?@[]^`\x7b|\x7d~".toList.contains c

def isKeyChar (c : Char) : Bool := c.isAlphanum || c == '_' || c == ':' || c == '-'

/-- The rest behind a comment. It ends at the next percent sign, or before the next closing brace if
no percent sign follows. -/
def afterComment (s : List Char) : List Char :=
  if s.contains '%' then (s.dropWhile (· != '%')).drop 1 else s.dropWhile (· != '\x7d')

/-- A quoted value, read after its opening quote. A backslash keeps the character after it from
ending the value; no brace may occur. Of a value of several lines the first line counts. -/
def quoted? : List Char → Option (List Char × List Char)
  | [] => none
  | '\\' :: c :: rest => do
    let (value, rest) ← quoted? rest
    return ('\\' :: c :: value, rest)
  | c :: rest =>
    if c == '"' then some ([], rest)
    else if c == '\x7b' || c == '\x7d' then none
    else do
      let (value, rest) ← quoted? rest
      return (if c == '\n' then [] else c :: value, rest)

/-- The rest behind a name, which ends at a blank or before the closing brace. -/
def afterName? (rest : List Char) : Option (List Char) :=
  match rest with
  | c :: tail => if Text.isBlank c then some tail else if c == '\x7d' then some rest else none
  | [] => none

/-- An identifier or class that is not empty. -/
def nameParts (make : List Char → Part) (name : List Char) : List Part :=
  if name.isEmpty then [] else [make name]

def value? (s : List Char) : Option (List Char × List Char) :=
  match s with
  | '"' :: rest => quoted? rest
  | s =>
    let value := s.takeWhile isKeyChar
    if value.isEmpty then none
    else (afterName? (s.dropWhile isKeyChar)).map fun rest => (value, rest)

/-- The parts of a block up to its closing brace, and the rest. `fuel` is at least the length. -/
def parts? : Nat → List Char → Option (List Part × List Char)
  | 0, _ => none
  | _ + 1, [] => none
  | fuel + 1, c :: rest =>
    if c == '\x7d' then some ([], rest)
    else if c == ' ' || c == '\t' || c == '\n' || c == '\r' then parts? fuel rest
    else if c == '%' then parts? fuel (afterComment rest)
    else if c == '#' || c == '.' then do
      let name := rest.takeWhile isNameChar
      let tail ← afterName? (rest.dropWhile isNameChar)
      let (parts, tail) ← parts? fuel tail
      return (nameParts (if c == '#' then Part.id else Part.cls) name ++ parts, tail)
    else if isKeyChar c then do
      let key := (c :: rest).takeWhile isKeyChar
      match (c :: rest).dropWhile isKeyChar with
      | '=' :: tail =>
        let (value, tail) ← value? tail
        let (parts, tail) ← parts? fuel tail
        return (.named key value :: parts, tail)
      | _ => none
    else none

def classesOf (parts : List Part) : List String :=
  parts.filterMap fun
    | .cls name => some (String.ofList name)
    | .named key value => if String.ofList key == "class" then some (String.ofList value) else none
    | .id _ => none

/-- The attributes of a block. The last identifier and the last value of a key stand; classes add
up. -/
def recordOf (parts : List Part) : Record Datum :=
  let named := parts.foldl (fun r part =>
    match part with
    | .id name => Record.put "id" (.text (String.ofList name)) r
    | .named key value =>
      if String.ofList key == "class" then r
      else Record.put (String.ofList key) (.text (String.ofList value)) r
    | .cls _ => r) []
  match classesOf parts with
  | [] => named
  | classes => Record.put "class" (.text (" ".intercalate classes)) named

def addressNames : List String :=
  ["href", "src", "action", "formaction", "cite", "poster", "data", "background", "longdesc",
    "ping", "srcset", "usemap", "manifest", "icon", "profile", "xlink:href"]

/-- Whether an attribute is kept: it names no event, and its address may be linked. -/
def isSafe (entry : String × Datum) : Bool :=
  let name := entry.1.map Char.toLower
  !("on".toList.isPrefixOf name.toList) &&
    (!addressNames.contains name || (entry.2.text?.all fun s => Url.isAllowed s.toList))

/-- A block at the front of a text: its attributes, and the rest behind it. -/
def block? (s : List Char) : Option (Record Datum × List Char) :=
  match s with
  | '\x7b' :: rest => do
    let (parts, rest) ← parts? (rest.length + 1) rest
    return ((recordOf parts).filter isSafe, rest)
  | _ => none

def class? (attrs : Record Datum) : Option String := (attrs.get? "class").bind Datum.text?

/-- Attributes with the given ones written over them. -/
def update (attrs more : Record Datum) : Record Datum :=
  more.foldl (fun r e => r.put e.1 e.2) attrs

def withClassesBefore (classes : Option String) (attrs : Record Datum) : Record Datum :=
  match classes, class? attrs with
  | some before, some own => Record.put "class" (.text (before ++ " " ++ own)) attrs
  | _, _ => attrs

end ChapterTex.Markdown.Attribute
