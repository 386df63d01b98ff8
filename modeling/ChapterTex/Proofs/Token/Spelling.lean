import ChapterTex.Proofs.Token.FrontEnds

/-!
The spellings of a token stream in JSON. Every token chooses for itself how it spells its fields, in
which order, and which defaults it leaves out; all the spellings are read back as the same stream.
-/
namespace ChapterTex

/-- The spellings of a value under a key. A default value may also be null, or left out. -/
inductive Spelled (spellings : Datum → Prop) (isDefault : Prop) : Option Datum → Prop
  | written {d : Datum} (h : spellings d) : Spelled spellings isDefault (some d)
  | null (h : isDefault) : Spelled spellings isDefault (some .null)
  | absent (h : isDefault) : Spelled spellings isDefault none

theorem Spelled.getD {spellings : Datum → Prop} {isDefault : Prop} {d? : Option Datum}
    (h : Spelled spellings isDefault d?) :
    spellings (d?.getD .null) ∨ isDefault ∧ d?.getD .null = .null := by
  cases h with
  | written h => exact .inl h
  | null h => exact .inr ⟨h, rfl⟩
  | absent h => exact .inr ⟨h, rfl⟩

theorem Spelled.field? {spellings : Datum → Prop} {isDefault : Prop} {fields : Record Datum}
    {name : String} (h : Spelled spellings isDefault (Record.get? fields name)) :
    spellings (Datum.field? fields name) ∨ isDefault ∧ Datum.field? fields name = .null :=
  h.getD

namespace Token

/-- The attributes in any order, as an object or as a list of pairs. -/
def AttributesSpelled (attrs : Record Datum) (d : Datum) : Prop :=
  ∃ entries, entries.Perm attrs ∧ Markdown.AttributesWritten entries d

/-- The fields that can only hold texts do, and the attributes are a map from texts to texts. -/
structure Typed (t : Token) : Prop where
  tag : ∃ s, t.tag = .text s
  content : ∃ s, t.content = .text s
  info : ∃ s, t.info = .text s
  names : (t.attrs.map Prod.fst).Nodup
  values : ∀ a ∈ t.attrs, ∃ s, a.2 = .text s

/-- An object that spells a token with these children. Only its fields with these names matter. -/
structure FieldsSpelled (t : Token) (children : List Datum) (fields : Record Datum) : Prop where
  type : Record.get? fields "type" = some (.text t.kind.name)
  tag : Spelled (· = t.tag) (t.tag = .text "") (Record.get? fields "tag")
  content : Spelled (· = t.content) (t.content = .text "") (Record.get? fields "content")
  attrs : Spelled (AttributesSpelled t.attrs) (t.attrs = []) (Record.get? fields "attrs")
  args : Spelled (· = .list t.args) (t.args = []) (Record.get? fields "args")
  children : Spelled (· = .list children) (children = []) (Record.get? fields "children")
  info : Spelled (· = t.info) (t.info = .text "") (Record.get? fields "info")
  hashId : Spelled (· = t.hashId) (t.hashId = .null) (Record.get? fields "hashID")

/-- The items spell the tokens, and so down to the last children. -/
inductive AllSpelled : List Token → List Datum → Prop
  | nil : AllSpelled [] []
  | cons {t : Token} {ts : List Token} {fields : Record Datum} {children items : List Datum}
      (ht : t.Typed) (hfields : t.FieldsSpelled children fields)
      (hchildren : AllSpelled t.children children) (hrest : AllSpelled ts items) :
      AllSpelled (t :: ts) (.dict fields :: items)

/-- A document that holds these items: a list, alone or under `tokens` in an object. -/
inductive Holds (items : List Datum) : Datum → Prop
  | bare : Holds items (.list items)
  | member {members : Record Datum} (h : Record.get? members "tokens" = some (.list items)) :
      Holds items (.dict members)

/-- The same tokens, but for the order of their attributes. -/
inductive Alike : List Token → List Token → Prop
  | nil : Alike [] []
  | cons {t u : Token} {ts us : List Token} (hattrs : u.attrs.Perm t.attrs)
      (hfields : u = { t with attrs := u.attrs, children := u.children })
      (hchildren : Alike t.children u.children) (hrest : Alike ts us) : Alike (t :: ts) (u :: us)

variable {t : Token} {fields attrs : Record Datum} {children : List Datum} {d : Datum}

theorem map_display_of_texts (h : ∀ a ∈ attrs, ∃ s, a.2 = Datum.text s) :
    attrs.map (fun a => (a.1, Datum.text a.2.display)) = attrs := by
  have hentry : ∀ a ∈ attrs, (a.1, Datum.text a.2.display) = a := by
    rintro ⟨name, value⟩ hmem
    obtain ⟨s, hs⟩ := h _ hmem
    obtain rfl : value = .text s := hs
    rw [Datum.display_text]
  rw [List.map_congr_left hentry, List.map_id']

theorem attributes_of_spelled (ht : t.Typed) (h : AttributesSpelled t.attrs d) :
    ∃ attrs, attributes d = .ok attrs ∧ attrs.Perm t.attrs := by
  obtain ⟨entries, hperm, hwritten⟩ := h
  have htexts : ∀ a ∈ entries, ∃ s, a.2 = Datum.text s :=
    fun a hmem => ht.values a (hperm.subset hmem)
  refine ⟨entries, ?_, hperm⟩
  rw [Markdown.attributes_of_written hwritten, map_display_of_texts htexts]

namespace FieldsSpelled
variable (h : t.FieldsSpelled children fields)
include h

theorem attributes (ht : t.Typed) : ∃ attrs,
    Token.attributes (Datum.field? fields "attrs") = .ok attrs ∧ attrs.Perm t.attrs := by
  rcases h.attrs.field? with hspelled | ⟨hempty, hnull⟩
  · exact attributes_of_spelled ht hspelled
  · rw [hnull, hempty]
    exact ⟨[], rfl, .nil⟩

theorem sequence_args : sequence (Datum.field? fields "args") = .ok t.args := by
  rcases h.args.field? with hlist | ⟨hempty, hnull⟩
  · rw [hlist]
    cases t.args <;> rfl
  · rw [hnull, hempty]
    rfl

theorem ofField_children : ofField fields = ofData children := by
  have hfield : ofField fields = ofChildren (Datum.field? fields "children") := by
    rw [Markdown.ofField_eq, Datum.field?]
    cases Record.get? fields "children" <;> rfl
  rw [hfield]
  rcases h.children.field? with hlist | ⟨hempty, hnull⟩
  · rw [hlist, ofChildren]
  · rw [hnull, hempty]
    rfl

theorem hashId_eq : Datum.field? fields "hashID" = t.hashId := by
  rcases h.hashId.field? with heq | ⟨hnull, heq⟩
  · exact heq
  · rw [heq, hnull]

end FieldsSpelled

theorem orElse_of_spelled {name : String} {s : String}
    (h : Spelled (· = .text s) (Datum.text s = .text "") (Record.get? fields name)) :
    (Datum.field? fields name).orElse (.text "") = .text s := by
  rcases h.field? with heq | ⟨hempty, heq⟩
  · rw [heq, Datum.orElse_text_empty]
  · rw [heq, hempty]
    rfl

/-- An object reads as the token that it spells, with what its children read as. -/
theorem ofDatum_of_spelled {tokens : List Token} (ht : t.Typed)
    (h : t.FieldsSpelled children fields) (hchildren : ofData children = .ok tokens) :
    ∃ attrs, attrs.Perm t.attrs ∧
      ofDatum (.dict fields) = .ok { t with attrs := attrs, children := tokens } := by
  obtain ⟨attrs, hattrs, hperm⟩ := h.attributes ht
  refine ⟨attrs, hperm, ?_⟩
  have hkind : TokenKind.ofDatum (.text t.kind.name) = .ok t.kind := by
    simp only [TokenKind.ofDatum, Datum.text?_text, Option.bind_some, TokenKind.ofName?_name]
  have htag : (Datum.field? fields "tag").orElse (.text "") = t.tag := by
    obtain ⟨s, hs⟩ := ht.tag
    rw [hs, orElse_of_spelled (hs ▸ h.tag)]
  have hcontent : (Datum.field? fields "content").orElse (.text "") = t.content := by
    obtain ⟨s, hs⟩ := ht.content
    rw [hs, orElse_of_spelled (hs ▸ h.content)]
  have hinfo : (Datum.field? fields "info").orElse (.text "") = t.info := by
    obtain ⟨s, hs⟩ := ht.info
    rw [hs, orElse_of_spelled (hs ▸ h.info)]
  rw [ofDatum]
  simp only [h.type, hkind, hattrs, h.sequence_args, h.ofField_children, hchildren, htag, hcontent,
    hinfo, h.hashId_eq, bind, Except.bind, pure, Except.pure]

/-- A list reads as the tokens that it spells. The induction is on the spelling, so that the
children of a token are read before it. -/
theorem ofData_of_spelled {ts : List Token} {items : List Datum} (h : AllSpelled ts items) :
    ∃ loaded, ofData items = .ok loaded ∧ Alike ts loaded := by
  induction h with
  | nil => exact ⟨[], rfl, .nil⟩
  | @cons t _ _ _ _ ht hfields _ _ ihchildren ihrest =>
    obtain ⟨children, hchildren, hsame⟩ := ihchildren
    obtain ⟨loaded, hloaded, hrest⟩ := ihrest
    obtain ⟨attrs, hperm, htoken⟩ := ofDatum_of_spelled ht hfields hchildren
    refine ⟨{ t with attrs := attrs, children := children } :: loaded, ?_,
      .cons hperm rfl hsame hrest⟩
    rw [ofData, htoken, hloaded]
    rfl

/-- All spellings of a token stream are read back as that stream, up to the order of attributes. -/
theorem load_reads_spellings {ts : List Token} {items : List Datum} {document : Datum}
    {source : String} (hspelled : AllSpelled ts items) (hdocument : Holds items document)
    (hparse : Json.parse source = .ok document) :
    ∃ loaded, load source = .ok loaded ∧ Alike ts loaded := by
  obtain ⟨loaded, hloaded, halike⟩ := ofData_of_spelled hspelled
  refine ⟨loaded, ?_, halike⟩
  unfold load
  rw [hparse]
  cases hdocument with
  | bare => exact hloaded
  | member h =>
    simp only [streamOf, Datum.field?, h, Option.getD_some]
    exact hloaded

end Token

namespace Datum

mutual

/-- A test for equality of values without numbers. -/
def same : Datum → Datum → Bool
  | .null, .null => true
  | .text s, .text t => s == t
  | .list items, .list items' => sameItems items items'
  | .dict fields, .dict fields' => sameFields fields fields'
  | _, _ => false

def sameItems : List Datum → List Datum → Bool
  | [], [] => true
  | d :: rest, d' :: rest' => same d d' && sameItems rest rest'
  | _, _ => false

def sameFields : List (String × Datum) → List (String × Datum) → Bool
  | [], [] => true
  | (name, d) :: rest, (name', d') :: rest' => name == name' && same d d' && sameFields rest rest'
  | _, _ => false

end

mutual

theorem eq_of_same : ∀ {d d' : Datum}, same d d' = true → d = d'
  | .null, .null, _ => rfl
  | .text s, .text t, h => by
    rw [same, beq_iff_eq] at h
    rw [h]
  | .list items, .list items', h => by
    rw [same] at h
    rw [eq_of_sameItems h]
  | .dict fields, .dict fields', h => by
    rw [same] at h
    rw [eq_of_sameFields h]

theorem eq_of_sameItems : ∀ {items items' : List Datum}, sameItems items items' = true →
    items = items'
  | [], [], _ => rfl
  | d :: rest, d' :: rest', h => by
    rw [sameItems, Bool.and_eq_true] at h
    rw [eq_of_same h.1, eq_of_sameItems h.2]

theorem eq_of_sameFields : ∀ {fields fields' : List (String × Datum)},
    sameFields fields fields' = true → fields = fields'
  | [], [], _ => rfl
  | (name, d) :: rest, (name', d') :: rest', h => by
    rw [sameFields, Bool.and_eq_true, Bool.and_eq_true, beq_iff_eq] at h
    rw [h.1.1, eq_of_same h.1.2, eq_of_sameFields h.2]

end

end Datum

theorem Json.parse_eq_of_same {source : String} {document : Datum}
    (h : (Json.parse source).toOption.any (Datum.same document) = true) :
    Json.parse source = .ok document := by
  cases hparse : Json.parse source with
  | error fault =>
    rw [hparse] at h
    cases h
  | ok value =>
    rw [hparse] at h
    exact congrArg Except.ok (Datum.eq_of_same h).symm

namespace Token

/-- A text in an inline token, in an object with another member. -/
def wrappedSource : String :=
  "\x7b\"note\": null, \"tokens\": [\x7b\"children\": [\x7b\"attrs\": " ++
    "[[\"id\", \"b\"], [\"class\", \"a\"]], \"tag\": null, \"type\": \"text\"\x7d], " ++
    "\"type\": \"inline\", \"hashID\": \"h\", \"info\": \"\"\x7d]\x7d"

def innerToken : Token := { kind := .text, attrs := [("class", .text "a"), ("id", .text "b")] }

def outerToken : Token := { kind := .inline, children := [innerToken], hashId := .text "h" }

def innerFields : Record Datum :=
  [("attrs", .list [.list [.text "id", .text "b"], .list [.text "class", .text "a"]]),
    ("tag", .null), ("type", .text "text")]

def outerFields : Record Datum :=
  [("children", .list [.dict innerFields]), ("type", .text "inline"), ("hashID", .text "h"),
    ("info", .text "")]

theorem parse_wrappedSource : Json.parse wrappedSource =
    .ok (.dict [("note", .null), ("tokens", .list [.dict outerFields])]) :=
  Json.parse_eq_of_same (by decide +kernel)

theorem allSpelled_outerToken : AllSpelled [outerToken] [.dict outerFields] := by
  have hinner : innerToken.FieldsSpelled [] innerFields := by
    refine ⟨rfl, .null rfl, .absent rfl, .written ?_, .absent rfl, .absent rfl, .absent rfl,
      .absent rfl⟩
    exact ⟨[("id", .text "b"), ("class", .text "a")], .swap _ _ _, .pairs (by decide)⟩
  have houter : outerToken.FieldsSpelled [.dict innerFields] outerFields :=
    ⟨rfl, .absent rfl, .absent rfl, .absent rfl, .absent rfl, .written rfl, .written rfl,
      .written rfl⟩
  have htyped : innerToken.Typed :=
    ⟨⟨_, rfl⟩, ⟨_, rfl⟩, ⟨_, rfl⟩, by decide, by simp [innerToken]⟩
  have htyped' : outerToken.Typed :=
    ⟨⟨_, rfl⟩, ⟨_, rfl⟩, ⟨_, rfl⟩, by decide, by simp [outerToken]⟩
  exact .cons htyped' houter (.cons htyped hinner .nil .nil) .nil

theorem load_reads_spellings_wrapped :
    ∃ loaded, load wrappedSource = .ok loaded ∧ Alike [outerToken] loaded :=
  load_reads_spellings allSpelled_outerToken (.member rfl) parse_wrappedSource

end Token
end ChapterTex
