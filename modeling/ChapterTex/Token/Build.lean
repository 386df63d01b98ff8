import ChapterTex.Token.Basic

/-!
Tokens built from the values of their fields. Unlike in a serialized stream, attributes keep their
values, and a field that is present has to suit.
-/
namespace ChapterTex.Token

/-- One attribute, given as a pair. -/
def pair (entry : Datum) : Except Failure (String × Datum) :=
  match entry.items? with
  | none => .error .wrongKind
  | some [name, value] => if name.isKey then .ok (name.display, value) else .error .wrongKind
  | some _ => .error .notAPair

/-- The attributes of a token, given as a record or as pairs. -/
def attributeRecord (d : Datum) : Except Failure (Record Datum) :=
  match d with
  | .dict fields => .ok fields
  | other =>
    match other.items? with
    | none => .error .wrongKind
    | some entries => Record.ofList <$> entries.mapM pair

/-- The items of a field that has to be a sequence. -/
def itemsOf (d : Datum) : Except Failure (List Datum) :=
  match d.items? with
  | some items => .ok items
  | none => .error .wrongKind

def fieldNames : List String :=
  ["type", "tag", "content", "attrs", "args", "children", "info", "hash_id"]

/-- The token with the given fields, but without its children. Fields that are not given have their
defaults. -/
def childless (fields : Record Datum) : Except Failure Token := do
  let some type := fields.get? "type" | .error .wrongKind
  if !fields.all (fun f => fieldNames.contains f.1) then .error .wrongKind
  let kind ← TokenKind.ofDatum type
  let attrs ← attributeRecord ((fields.get? "attrs").getD (.dict []))
  let args ← itemsOf ((fields.get? "args").getD (.list []))
  return {
    kind
    tag := (fields.get? "tag").getD (.text "")
    content := (fields.get? "content").getD (.text "")
    attrs
    args
    info := (fields.get? "info").getD (.text "")
    hashId := (fields.get? "hash_id").getD .null }

mutual

def build (d : Datum) : Except Failure Token :=
  match d with
  | .dict fields => do
    let token ← childless fields
    let children ← buildField fields
    return { token with children }
  | _ => .error .noSuchPart

/-- The children among the fields of a record. -/
def buildField : List (String × Datum) → Except Failure (List Token)
  | [] => .ok []
  | (name, value) :: rest => if name == "children" then buildChildren value else buildField rest

/-- The children of a token. The items of a text or of a record are no tokens. -/
def buildChildren (d : Datum) : Except Failure (List Token) :=
  match d with
  | .list items | .tuple items => buildAll items
  | other => do
    match ← itemsOf other with
    | [] => return []
    | _ => .error .noSuchPart

def buildAll : List Datum → Except Failure (List Token)
  | [] => .ok []
  | d :: rest => do
    let token ← build d
    let tokens ← buildAll rest
    return token :: tokens

end

end ChapterTex.Token
