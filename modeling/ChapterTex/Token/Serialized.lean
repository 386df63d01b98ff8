import ChapterTex.Json.Reader
import ChapterTex.Token.Basic

/-!
Token streams in JSON. A token is an object with a `type`; fields that are missing or empty have
their defaults, attributes are an object or a list of pairs, and the children are tokens again.
-/
namespace ChapterTex.Token

/-- One attribute: the text of its name and the text of its value. -/
def attribute? (entry : Datum) : Option (String × Datum) :=
  match entry.items? with
  | some [name, value] => some (name.display, .text value.display)
  | _ => none

/-- The attributes of a token, each with the text of its value. -/
def attributes (d : Datum) : Except Failure (Record Datum) :=
  if !d.truthy then .ok []
  else
    match d with
    | .dict fields => .ok (Record.ofList (fields.map fun f => (f.1, .text f.2.display)))
    | other =>
      match other.items?.bind fun entries => entries.mapM attribute? with
      | some entries => .ok (Record.ofList entries)
      | none => .error (.malformedStream (.notAttributes d.inner))

/-- The items of a field that is a sequence, or none if the field is absent. -/
def sequence (d : Datum) : Except Failure (List Datum) :=
  if !d.truthy then .ok []
  else
    match d.items? with
    | some items => .ok items
    | none => .error .wrongKind

/-- A text is not a token, and neither is an object without a type. -/
def notAToken {α : Type} (d : Datum) : Except Failure α :=
  .error (.malformedStream (.notAToken d.inner))

mutual

def ofDatum (d : Datum) : Except Failure Token :=
  match d with
  | .dict fields => do
    let some type := Record.get? fields "type" | notAToken (.dict fields)
    let kind ← TokenKind.ofDatum type
    let attrs ← attributes (Datum.field? fields "attrs")
    let args ← sequence (Datum.field? fields "args")
    let children ← ofField fields
    return {
      kind
      tag := (Datum.field? fields "tag").orElse (.text "")
      content := (Datum.field? fields "content").orElse (.text "")
      attrs
      args
      children
      info := (Datum.field? fields "info").orElse (.text "")
      hashId := Datum.field? fields "hashID" }
  | other => notAToken other

def ofField : List (String × Datum) → Except Failure (List Token)
  | [] => .ok []
  | (name, value) :: rest => if name == "children" then ofChildren value else ofField rest

/-- The children of a token: the tokens of a list, or the items of another sequence, none of which
is a token. -/
def ofChildren (d : Datum) : Except Failure (List Token) :=
  match d with
  | .list items | .tuple items => ofData items
  | other => do
    match ← sequence other with
    | [] => return []
    | item :: _ => notAToken item

def ofData : List Datum → Except Failure (List Token)
  | [] => .ok []
  | d :: rest => do
    let token ← ofDatum d
    let tokens ← ofData rest
    return token :: tokens

end

/-- The stream of a document: a list of tokens, alone or under `tokens`. -/
def streamOf (document : Datum) : Except Failure (List Token) :=
  let data := match document with
    | .dict fields => Datum.field? fields "tokens"
    | other => other
  match data with
  | .list items => ofData items
  | _ => .error (.malformedStream .notAList)

def load (text : String) : Except Failure (List Token) :=
  match Json.parse text with
  | .error (.fault fault) => .error (.malformedStream (.notJson fault))
  | .error (.digits count) => .error (.tooManyDigits count)
  | .error .halfPair => .error .halfPair
  | .ok document => streamOf document

end ChapterTex.Token
