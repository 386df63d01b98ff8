import ChapterTex.Markdown.Adapt
import ChapterTex.Proofs.Outcome
import ChapterTex.Proofs.Record
import ChapterTex.Token.Serialized

/-!
The two sources of tokens. A tree of Markdown tokens and its form as an object denote the same
token; if some kind in it is unknown, the trees are gone through in different orders, so that the
failures may name different kinds.
-/
namespace ChapterTex
namespace Markdown

/-- The forms of attributes, which have distinct names: an object, or a list of pairs. Without
attributes there may also be none. -/
inductive AttributesWritten : List (String × Datum) → Datum → Prop
  | absent : AttributesWritten [] .null
  | object {attrs : List (String × Datum)} (h : (attrs.map Prod.fst).Nodup) :
      AttributesWritten attrs (.dict attrs)
  | pairs {attrs : List (String × Datum)} (h : (attrs.map Prod.fst).Nodup) :
      AttributesWritten attrs (.list (attrs.map fun a => .list [.text a.1, a.2]))

def objectFields (t : Token) (attrs children : Datum) : Record Datum :=
  [("type", .text t.kind), ("tag", .text t.tag), ("content", .text t.content), ("attrs", attrs),
    ("children", children), ("info", .text t.info)]

mutual

/-- The forms of a tree of tokens as an object, whose fields stand in any order. -/
inductive Written : Token → Datum → Prop
  | object {t : Token} {fields : Record Datum} {attrs children : Datum}
      (hattrs : AttributesWritten t.attrs attrs) (hchildren : ChildrenWritten t.children children)
      (hfields : fields.Perm (objectFields t attrs children)) : Written t (.dict fields)

/-- The forms of the children of a token: a list of their forms. Without children there may also be
none. -/
inductive ChildrenWritten : List Token → Datum → Prop
  | absent : ChildrenWritten [] .null
  | list {ts : List Token} {items : List Datum} (h : AllWritten ts items) :
      ChildrenWritten ts (.list items)

inductive AllWritten : List Token → List Datum → Prop
  | nil : AllWritten [] []
  | cons {t : Token} {d : Datum} {ts : List Token} {items : List Datum} (h : Written t d)
      (hs : AllWritten ts items) : AllWritten (t :: ts) (d :: items)

end

namespace Token

mutual

/-- The names of the kinds in a tree, with that of a token before those of its children. -/
def preorder : Token → List String
  | ⟨kind, _, _, _, _, children, _⟩ => kind :: preorderAll children

def preorderAll : List Token → List String
  | [] => []
  | t :: rest => preorder t ++ preorderAll rest

end

mutual

/-- The names of the kinds in a tree, with that of a token after those of its children. -/
def postorder : Token → List String
  | ⟨kind, _, _, _, _, children, _⟩ => postorderAll children ++ [kind]

def postorderAll : List Token → List String
  | [] => []
  | t :: rest => postorder t ++ postorderAll rest

end

mutual

/-- The token that a tree of known kinds denotes. -/
def denoted : Token → ChapterTex.Token
  | ⟨kind, tag, content, info, attrs, children, _⟩ => {
    kind := (TokenKind.ofName? kind).getD .text
    tag := .text tag
    content := .text content
    attrs := attrs.map fun a => (a.1, .text a.2.display)
    children := denotedAll children
    info := .text info }

def denotedAll : List Token → List ChapterTex.Token
  | [] => []
  | t :: rest => denoted t :: denotedAll rest

end

theorem preorder_eq (t : Token) : t.preorder = t.kind :: preorderAll t.children := by
  cases t
  rw [preorder]

theorem denoted_eq (t : Token) :
    t.denoted = {
      kind := (TokenKind.ofName? t.kind).getD .text
      tag := .text t.tag
      content := .text t.content
      attrs := t.attrs.map fun a => (a.1, .text a.2.display)
      children := denotedAll t.children
      info := .text t.info } := by
  cases t
  rw [denoted]

mutual

/-- The two orders name the same kinds. -/
theorem preorder_perm_postorder : ∀ t : Token, t.preorder.Perm t.postorder
  | ⟨kind, _, _, _, _, children, _⟩ => by
    have hchildren := preorderAll_perm_postorderAll children
    rw [preorder, postorder]
    exact (hchildren.cons kind).trans (List.perm_append_singleton kind _).symm

theorem preorderAll_perm_postorderAll :
    ∀ ts : List Token, (preorderAll ts).Perm (postorderAll ts)
  | [] => .nil
  | t :: rest => by
    rw [preorderAll, postorderAll]
    exact (preorder_perm_postorder t).append (preorderAll_perm_postorderAll rest)

end

end Token

def firstUnknown? (kinds : List String) : Option String :=
  kinds.find? fun kind => (TokenKind.ofName? kind).isNone

/-- What becomes of a value that is built while kinds are met in the given order. -/
def outcome {α : Type} (kinds : List String) (value : α) : Except Failure α :=
  match firstUnknown? kinds with
  | some kind => .error (.unknownToken kind)
  | none => .ok value

section Outcome
variable {α β : Type} {kinds more : List String} {a : α} {b : β}

theorem outcome_eq_ok_iff {value : α} :
    outcome kinds a = .ok value ↔ firstUnknown? kinds = none ∧ a = value := by
  unfold outcome
  cases firstUnknown? kinds <;> simp

theorem outcome_eq_error_iff {e : Failure} :
    outcome kinds a = .error e ↔
      ∃ kind, firstUnknown? kinds = some kind ∧ e = .unknownToken kind := by
  unfold outcome
  cases firstUnknown? kinds <;> simp [eq_comm]

/-- Kinds that are met later decide only if all before them are known. -/
theorem outcome_bind {f : α → Except Failure β} (h : f a = outcome more b) :
    outcome kinds a >>= f = outcome (kinds ++ more) b := by
  have happend : firstUnknown? (kinds ++ more) = (firstUnknown? kinds).or (firstUnknown? more) :=
    List.find?_append
  cases hk : firstUnknown? kinds with
  | none =>
    rw [hk, Option.none_or] at happend
    have hfirst : outcome kinds a = .ok a := by simp only [outcome, hk]
    have hboth : outcome (kinds ++ more) b = outcome more b := by simp only [outcome, happend]
    rw [hfirst, hboth]
    exact h
  | some kind =>
    rw [hk, Option.some_or] at happend
    simp only [outcome, hk, happend]
    rfl

theorem outcome_map (f : α → β) :
    (outcome kinds a >>= fun x => pure (f x)) = outcome kinds (f a) := by
  have hpure : (pure (f a) : Except Failure β) = outcome [] (f a) := rfl
  have hbind : (outcome kinds a >>= fun x => pure (f x)) = outcome (kinds ++ []) (f a) :=
    outcome_bind hpure
  rwa [List.append_nil] at hbind

theorem ofDatum_eq_outcome (kind : String) :
    TokenKind.ofDatum (.text kind) = outcome [kind] ((TokenKind.ofName? kind).getD .text) := by
  unfold outcome firstUnknown? TokenKind.ofDatum
  cases hk : TokenKind.ofName? kind <;> simp [hk]

end Outcome

mutual

theorem ofMarkdown_eq_outcome :
    ∀ t : Token, ChapterTex.Token.ofMarkdown t = outcome t.postorder t.denoted
  | ⟨kind, tag, content, info, attrs, children, nesting⟩ => by
    rw [ChapterTex.Token.ofMarkdown, ofMarkdownAll_eq_outcome children, Token.postorder]
    refine outcome_bind ?_
    rw [ofDatum_eq_outcome, outcome_map, Token.denoted]

theorem ofMarkdownAll_eq_outcome : ∀ ts : List Token,
    ChapterTex.Token.ofMarkdownAll ts = outcome (Token.postorderAll ts) (Token.denotedAll ts)
  | [] => rfl
  | t :: rest => by
    rw [ChapterTex.Token.ofMarkdownAll, ofMarkdown_eq_outcome t, Token.postorderAll]
    refine outcome_bind ?_
    rw [ofMarkdownAll_eq_outcome rest, outcome_map, Token.denotedAll]

end

/-! The fields of an object, wherever they stand in it. -/

theorem mapM_attribute?_pairs (attrs : List (String × Datum)) :
    (attrs.map fun a => Datum.list [.text a.1, a.2]).mapM ChapterTex.Token.attribute? =
      some (attrs.map fun a => (a.1, .text a.2.display)) := by
  induction attrs with
  | nil => rfl
  | cons entry rest ih =>
    have hentry : ChapterTex.Token.attribute? (.list [.text entry.1, entry.2]) =
        some (entry.1, .text entry.2.display) := by
      simp only [ChapterTex.Token.attribute?, Datum.items?, Datum.display_text]
    rw [List.map_cons, List.mapM_cons, hentry, ih]
    rfl

theorem ofList_printed {attrs : List (String × Datum)} (h : (attrs.map Prod.fst).Nodup) :
    Record.ofList (attrs.map fun a => (a.1, Datum.text a.2.display)) =
      attrs.map fun a => (a.1, .text a.2.display) := by
  apply Record.ofList_of_nodup
  simpa [Function.comp_def] using h

theorem attributes_of_written {attrs : List (String × Datum)} {d : Datum}
    (h : AttributesWritten attrs d) :
    ChapterTex.Token.attributes d = .ok (attrs.map fun a => (a.1, .text a.2.display)) := by
  cases h with
  | absent => rfl
  | object hnodup =>
    cases attrs with
    | nil => rfl
    | cons entry rest => exact congrArg Except.ok (ofList_printed hnodup)
  | pairs hnodup =>
    cases attrs with
    | nil => rfl
    | cons entry rest =>
      have hpairs := mapM_attribute?_pairs (entry :: rest)
      rw [← ofList_printed hnodup]
      unfold ChapterTex.Token.attributes
      simp only [Datum.truthy, Datum.items?, List.map_cons, List.isEmpty_cons, Bool.not_false,
        Bool.not_true, Bool.false_eq_true, if_false, Option.bind_some] at hpairs ⊢
      rw [hpairs]

theorem ofField_eq (fields : Record Datum) :
    ChapterTex.Token.ofField fields =
      ((Record.get? fields "children").map ChapterTex.Token.ofChildren).getD (.ok []) := by
  induction fields with
  | nil => rfl
  | cons entry rest ih =>
    obtain ⟨name, value⟩ := entry
    rw [ChapterTex.Token.ofField, Record.get?_cons]
    by_cases hn : name = "children"
    · simp [hn]
    · have hne : ("children" == name) = false := by simpa using Ne.symm hn
      simp [hn, hne, ih]

/-- The fields of a form are those of its token. -/
theorem get?_of_objectFields {t : Token} {fields : Record Datum} {attrs children : Datum}
    (h : fields.Perm (objectFields t attrs children)) (name : String) :
    Record.get? fields name = Record.get? (objectFields t attrs children) name := by
  have hnames : (objectFields t attrs children).map Prod.fst =
      ["type", "tag", "content", "attrs", "children", "info"] := rfl
  refine Record.get?_of_perm h ?_ name
  rw [hnames]
  decide

/-- An object reads as its token, with what its children read as. -/
theorem ofDatum_of_objectFields {t : Token} {fields : Record Datum} {attrs children : Datum}
    {kinds : List String} {tokens : List ChapterTex.Token}
    (hfields : fields.Perm (objectFields t attrs children))
    (hattrs : AttributesWritten t.attrs attrs)
    (hchildren : ChapterTex.Token.ofChildren children = outcome kinds tokens) :
    ChapterTex.Token.ofDatum (.dict fields) = outcome (t.kind :: kinds) {
      kind := (TokenKind.ofName? t.kind).getD .text
      tag := .text t.tag
      content := .text t.content
      attrs := t.attrs.map fun a => (a.1, .text a.2.display)
      children := tokens
      info := .text t.info } := by
  have hget := get?_of_objectFields hfields
  have hfield : ∀ name, Datum.field? fields name =
      Datum.field? (objectFields t attrs children) name := by
    intro name
    rw [Datum.field?, hget, Datum.field?]
  have htype : Record.get? fields "type" = some (.text t.kind) := hget "type"
  have htag : Datum.field? fields "tag" = .text t.tag := hfield "tag"
  have hcontent : Datum.field? fields "content" = .text t.content := hfield "content"
  have hinfo : Datum.field? fields "info" = .text t.info := hfield "info"
  have hhash : Datum.field? fields "hashID" = .null := hfield "hashID"
  have hattributes : ChapterTex.Token.attributes (Datum.field? fields "attrs") =
      .ok (t.attrs.map fun a => (a.1, .text a.2.display)) := by
    rw [hfield]
    exact attributes_of_written hattrs
  have hargs : ChapterTex.Token.sequence (Datum.field? fields "args") = .ok [] := by
    rw [hfield]
    rfl
  have htokens : ChapterTex.Token.ofField fields = outcome kinds tokens := by
    rw [ofField_eq, hget]
    exact hchildren
  rw [ChapterTex.Token.ofDatum]
  simp only [htype, ofDatum_eq_outcome]
  refine outcome_bind ?_
  rw [hattributes, hargs, htag, hcontent, hinfo, hhash, Datum.orElse_text_empty,
    Datum.orElse_text_empty, Datum.orElse_text_empty, htokens]
  exact outcome_map _

mutual

theorem ofDatum_eq_outcome_of_written {t : Token} : ∀ {d : Datum}, Written t d →
    ChapterTex.Token.ofDatum d = outcome t.preorder t.denoted
  | _, .object hattrs hchildren hfields => by
    rw [Token.preorder_eq, Token.denoted_eq]
    exact ofDatum_of_objectFields hfields hattrs (ofChildren_eq_outcome hchildren)

theorem ofChildren_eq_outcome {ts : List Token} : ∀ {d : Datum}, ChildrenWritten ts d →
    ChapterTex.Token.ofChildren d = outcome (Token.preorderAll ts) (Token.denotedAll ts)
  | _, .absent => rfl
  | _, .list h => by
    rw [ChapterTex.Token.ofChildren]
    exact ofData_eq_outcome h

theorem ofData_eq_outcome : ∀ {ts : List Token} {items : List Datum}, AllWritten ts items →
    ChapterTex.Token.ofData items = outcome (Token.preorderAll ts) (Token.denotedAll ts)
  | _, _, .nil => rfl
  | _, _, @AllWritten.cons t d ts items h hs => by
    rw [ChapterTex.Token.ofData, ofDatum_eq_outcome_of_written h, Token.preorderAll]
    refine outcome_bind ?_
    rw [ofData_eq_outcome hs, outcome_map, Token.denotedAll]

end

/-- Both orders meet an unknown kind, or neither does. -/
theorem firstUnknown?_preorder_eq_none_iff (t : Token) :
    firstUnknown? t.preorder = none ↔ firstUnknown? t.postorder = none := by
  simp only [firstUnknown?, List.find?_eq_none, t.preorder_perm_postorder.mem_iff]

/-- The two sources of tokens agree. A tree of Markdown tokens and any form of it as an object give
the same token, or both fail at an unknown kind: the tree at the first in post-order, the object at
the first in pre-order. -/
theorem front_ends_agree {t : Token} {d : Datum} (h : Written t d) :
    (∀ token, ChapterTex.Token.ofMarkdown t = .ok token ↔ ChapterTex.Token.ofDatum d = .ok token) ∧
      (∀ e, ChapterTex.Token.ofMarkdown t = .error e ↔
        ∃ kind, firstUnknown? t.postorder = some kind ∧ e = .unknownToken kind) ∧
      (∀ e, ChapterTex.Token.ofDatum d = .error e ↔
        ∃ kind, firstUnknown? t.preorder = some kind ∧ e = .unknownToken kind) := by
  rw [ofMarkdown_eq_outcome, ofDatum_eq_outcome_of_written h]
  refine ⟨?_, fun e => outcome_eq_error_iff, fun e => outcome_eq_error_iff⟩
  intro token
  rw [outcome_eq_ok_iff, outcome_eq_ok_iff, firstUnknown?_preorder_eq_none_iff]

/-- A picture inside of raw HTML, neither of which is in the vocabulary. -/
theorem front_ends_agree_image :
    ChapterTex.Token.ofMarkdown
        { kind := "html_block"
          children :=
            [{ kind := "image", attrs := [("src", .text "a.png"), ("width", .int 3)] }] } =
      .error (.unknownToken "image") ∧
    ChapterTex.Token.ofDatum
        (.dict [("info", .text ""),
          ("children", .list [
            .dict [("type", .text "image"), ("tag", .text ""), ("content", .text ""),
              ("attrs", .list [.list [.text "src", .text "a.png"], .list [.text "width", .int 3]]),
              ("children", .null), ("info", .text "")]]),
          ("attrs", .dict []), ("content", .text ""), ("tag", .text ""),
          ("type", .text "html_block")]) =
      .error (.unknownToken "html_block") := by
  have himage := Written.object
    (t := { kind := "image", attrs := [("src", .text "a.png"), ("width", .int 3)] })
    (.pairs (by decide)) .absent (List.Perm.refl _)
  obtain ⟨-, htree, hobject⟩ := front_ends_agree
    (t := { kind := "html_block"
            children :=
              [{ kind := "image", attrs := [("src", .text "a.png"), ("width", .int 3)] }] })
    (.object (.object (by decide)) (.list (.cons himage .nil)) (List.reverse_perm _))
  exact ⟨(htree _).mpr ⟨"image", by decide, rfl⟩, (hobject _).mpr ⟨"html_block", by decide, rfl⟩⟩

end Markdown
end ChapterTex
