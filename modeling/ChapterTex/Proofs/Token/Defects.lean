import ChapterTex.Proofs.Defect
import ChapterTex.Proofs.Json.LongInteger
import ChapterTex.Proofs.Token.Misfit
import ChapterTex.Proofs.Token.Spelling

/-!
Defects of serialized tokens. Loading goes through the nodes of a stream in pre-order and puts every
node to the same row of checks; it fails at the first check that a node does not pass.
-/
namespace ChapterTex
namespace Datum

/-- The value under a name, if the value that is asked is a record. -/
def member? (d : Datum) (name : String) : Option Datum :=
  match d with
  | .dict fields => Record.get? fields name
  | _ => none

def member (d : Datum) (name : String) : Datum := (d.member? name).getD .null

/-- The values that count as present and cannot be gone through: true, and the numbers but for
zero. -/
def IsUnsequenced : Datum → Prop
  | bool b => b = true
  | int n => n ≠ 0
  | float x => (x != 0) = true
  | _ => False

/-- Attributes are absent, a record, or a sequence of pairs. Whatever has exactly two items is a
pair. -/
def IsAttributes (d : Datum) : Prop :=
  d.truthy = false ∨ (∃ fields, d = .dict fields) ∨
    ∃ entries, (d = .list entries ∨ d = .tuple entries) ∧
      ∀ e ∈ entries, ∃ a b, e.items? = some [a, b]

variable {d : Datum}

@[simp] theorem member?_dict (fields : Record Datum) (name : String) :
    (dict fields).member? name = Record.get? fields name := rfl

@[simp] theorem member_dict (fields : Record Datum) (name : String) :
    (dict fields).member name = field? fields name := rfl

theorem isUnsequenced_iff : d.IsUnsequenced ↔ d.truthy = true ∧ d.items? = none := by
  cases d <;> simp [IsUnsequenced, truthy, items?]

end Datum

namespace Token
open Datum (IsAttributes)

/-- The checks of a node, each with the failure of a node that does not pass it: it is an object
with a type, the type is the name of a kind, and the attributes, the arguments and the children can
be gone through. -/
def checks : List (Datum → Failure → Prop) :=
  [fun d f => d.member? "type" = none ∧ f = .malformedStream (.notAToken d.inner),
    fun d f => ∃ type, d.member? "type" = some type ∧
      (∀ kind : TokenKind, type.text? ≠ some kind.name) ∧ f = .unknownToken type.display,
    fun d f => ¬ IsAttributes (d.member "attrs") ∧
      f = .malformedStream (.notAttributes (d.member "attrs").inner),
    fun d f => (d.member "args").IsUnsequenced ∧ f = .wrongKind,
    fun d f => (d.member "children").IsUnsequenced ∧ f = .wrongKind]

/-- The failure of a node is that of the first check that it does not pass. -/
def NodeDefect (d : Datum) : Failure → Prop := FirstDefect (fun check => check d) checks

mutual

/-- The nodes of a tree in pre-order. -/
def nodes : Datum → List Datum
  | .dict fields => .dict fields :: fieldNodes fields
  | d => [d]

def fieldNodes : List (String × Datum) → List Datum
  | [] => []
  | (name, value) :: rest => if name == "children" then itemNodes value else fieldNodes rest

/-- The nodes of the items of a value. The characters of a text and the names of a record have no
children. -/
def itemNodes : Datum → List Datum
  | .list items | .tuple items => allNodes items
  | d => d.items?.getD []

def allNodes : List Datum → List Datum
  | [] => []
  | d :: rest => nodes d ++ allNodes rest

end

variable {d : Datum} {fields : Record Datum} {items : List Datum}

theorem allNodes_eq_flatMap (items : List Datum) : allNodes items = items.flatMap nodes := by
  induction items with
  | nil => rfl
  | cons d rest ih => rw [allNodes, ih, List.flatMap_cons]

theorem failsAs_ofKind (type : Datum) :
    FailsAs (TokenKind.ofDatum type) fun f =>
      (∀ kind : TokenKind, type.text? ≠ some kind.name) ∧ f = .unknownToken type.display := by
  unfold TokenKind.ofDatum
  cases hkind : type.text?.bind TokenKind.ofName? with
  | some kind =>
    obtain ⟨s, hs, hname⟩ := Option.bind_eq_some_iff.mp hkind
    refine .ok fun f hf => hf.1 kind ?_
    rw [hs, TokenKind.name_of_ofName? hname]
  | none =>
    refine .error fun f => and_iff_right fun kind htype => ?_
    rw [htype, Option.bind_some, TokenKind.ofName?_name] at hkind
    cases hkind

theorem failsAs_sequence (d : Datum) :
    FailsAs (sequence d) fun f => d.IsUnsequenced ∧ f = .wrongKind := by
  simp only [Datum.isUnsequenced_iff]
  unfold sequence
  cases d.truthy with
  | false => exact .ok (by simp)
  | true =>
    cases d.items? with
    | none => exact .error (by simp)
    | some items => exact .ok (by simp)

theorem isSome_attribute?_iff {e : Datum} :
    (attribute? e).isSome = true ↔ ∃ a b, e.items? = some [a, b] := by
  unfold attribute?
  split
  · next name value h => simp [h]
  · next h => simpa using h

theorem isSome_mapM_attribute?_iff {entries : List Datum} :
    (entries.mapM attribute?).isSome = true ↔ ∀ e ∈ entries, ∃ a b, e.items? = some [a, b] := by
  induction entries with
  | nil => simp
  | cons e rest ih =>
    rw [List.mapM_cons, List.forall_mem_cons, ← ih, ← isSome_attribute?_iff]
    cases attribute? e with
    | none => simp
    | some a => cases rest.mapM attribute? <;> simp

/-- No character of a text is a pair. -/
theorem mapM_attribute?_chars {s : String} (h : s ≠ "") :
    (s.toList.map fun c => Datum.text (String.singleton c)).mapM attribute? = none := by
  cases hs : s.toList with
  | nil => exact absurd (String.toList_eq_nil_iff.mp hs) h
  | cons c rest =>
    have hc : attribute? (.text (String.singleton c)) = none := by
      simp [attribute?, Datum.items?]
    rw [List.map_cons, List.mapM_cons, hc]
    rfl

theorem isSome_mapM_items_iff (htruthy : d.truthy = true) (hrecord : ∀ fields, d ≠ .dict fields) :
    (d.items?.bind fun entries => entries.mapM attribute?).isSome = true ↔ IsAttributes d := by
  cases d with
  | dict fields => exact absurd rfl (hrecord fields)
  | list entries => simp [IsAttributes, Datum.items?, htruthy, isSome_mapM_attribute?_iff]
  | tuple entries => simp [IsAttributes, Datum.items?, htruthy, isSome_mapM_attribute?_iff]
  | text s =>
    have hs : s ≠ "" := by simpa [Datum.truthy] using htruthy
    simp [IsAttributes, Datum.items?, htruthy, mapM_attribute?_chars hs]
  | latex s =>
    have hs : s ≠ "" := by simpa [Datum.truthy] using htruthy
    simp [IsAttributes, Datum.items?, htruthy, mapM_attribute?_chars hs]
  | _ => simp [IsAttributes, Datum.items?, htruthy]

theorem failsAs_attributes (d : Datum) :
    FailsAs (attributes d) fun f =>
      ¬ IsAttributes d ∧ f = .malformedStream (.notAttributes d.inner) := by
  unfold attributes
  cases htruthy : d.truthy with
  | false => exact .ok (by simp [IsAttributes, htruthy])
  | true =>
    simp only [Bool.not_true, Bool.false_eq_true, if_false]
    split
    · next fields => exact .ok (by simp [IsAttributes])
    · next hrecord =>
      rw [← isSome_mapM_items_iff htruthy hrecord]
      split
      · next entries h => exact .ok (by simp [h])
      · next h => exact .error (by simp [h])

theorem nodeDefect_dict :
    NodeDefect (.dict fields) = ThenFails
      (fun f => Record.get? fields "type" = none ∧
        f = .malformedStream (.notAToken (Datum.dict fields).inner)) (ThenFails
      (fun f => ∃ type, Record.get? fields "type" = some type ∧
        (∀ kind : TokenKind, type.text? ≠ some kind.name) ∧
        f = .unknownToken type.display) (ThenFails
      (fun f => ¬ IsAttributes (Datum.field? fields "attrs") ∧
        f = .malformedStream (.notAttributes (Datum.field? fields "attrs").inner)) (ThenFails
      (fun f => (Datum.field? fields "args").IsUnsequenced ∧ f = .wrongKind)
      (fun f => (Datum.field? fields "children").IsUnsequenced ∧ f = .wrongKind)))) := by
  simp only [NodeDefect, checks, firstDefect_cons, firstDefect_nil, thenFails_none_right,
    Datum.member?_dict, Datum.member_dict]

theorem not_nodeDefect (kind : TokenKind)
    (htype : Record.get? fields "type" = some (.text kind.name))
    (hattrs : IsAttributes (Datum.field? fields "attrs"))
    (hargs : ¬ (Datum.field? fields "args").IsUnsequenced)
    (hchildren : ¬ (Datum.field? fields "children").IsUnsequenced) :
    ∀ f, ¬ NodeDefect (.dict fields) f := by
  rw [nodeDefect_dict]
  simp only [not_thenFails_iff]
  refine ⟨?_, ?_, fun f hf => hf.1 hattrs, fun f hf => hargs hf.1, fun f hf => hchildren hf.1⟩
  · rintro f ⟨hnone, -⟩
    cases htype.symm.trans hnone
  · rintro f ⟨type, hsome, hkind, -⟩
    cases htype.symm.trans hsome
    exact hkind kind rfl

/-- What is no token fails at the first check, whatever there is behind it. -/
theorem failsAs_notAToken {α : Type} {q : Failure → Prop} (h : d.member? "type" = none) :
    FailsAs (notAToken d : Except Failure α) (ThenFails (NodeDefect d) q) := by
  rw [NodeDefect, checks, firstDefect_cons, thenFails_assoc]
  exact .error_then (by simp [h])

theorem eq_items_of_sequence (h : sequence d = .ok items) : items = d.items?.getD [] := by
  unfold sequence at h
  cases htruthy : d.truthy with
  | false =>
    rw [htruthy] at h
    cases h
    cases d <;> simp_all [Datum.truthy, Datum.items?]
  | true =>
    rw [htruthy] at h
    cases hitems : d.items? <;> rw [hitems] at h <;> cases h
    rfl

/-- The items of a value other than a list are no tokens. -/
theorem member?_of_mem_items (hlist : ∀ l, d ≠ .list l) (htuple : ∀ l, d ≠ .tuple l) :
    ∀ i ∈ d.items?.getD [], i.member? "type" = none := by
  intro i hi
  cases d with
  | list l => exact absurd rfl (hlist l)
  | tuple l => exact absurd rfl (htuple l)
  | text s | latex s | dict fields =>
    obtain ⟨_, -, rfl⟩ := List.mem_map.mp hi
    rfl
  | _ => cases hi

theorem failsAs_items (hlist : ∀ l, d ≠ .list l) (htuple : ∀ l, d ≠ .tuple l) :
    FailsAs (ofChildren d) (ThenFails (fun f => d.IsUnsequenced ∧ f = .wrongKind)
      (FirstDefect NodeDefect (itemNodes d))) := by
  rw [ofChildren]
  · refine (failsAs_sequence d).bind fun items hitems => ?_
    have hnone := member?_of_mem_items hlist htuple
    rw [itemNodes, ← eq_items_of_sequence hitems]
    · rw [← eq_items_of_sequence hitems] at hnone
      cases items with
      | nil => exact .ok (by simp)
      | cons item rest =>
        rw [firstDefect_cons]
        exact failsAs_notAToken (hnone item List.mem_cons_self)
    · exact hlist
    · exact htuple
  · exact hlist
  · exact htuple

-- The recursion is that of loading: from an object to its fields, its children and their fields.
mutual

theorem failsAs_ofDatum (d : Datum) : FailsAs (ofDatum d) (FirstDefect NodeDefect (nodes d)) := by
  cases d with
  | dict fields =>
    rw [ofDatum, nodes, firstDefect_cons]
    cases htype : Record.get? fields "type" with
    | none => exact failsAs_notAToken htype
    | some type =>
      rw [nodeDefect_dict, htype, thenFails_assoc, thenFails_of_none (by simp)]
      simp only [thenFails_assoc, Option.some.injEq, exists_eq_left']
      exact (failsAs_ofKind type).bind fun kind _ => (failsAs_attributes _).bind fun attrs _ =>
        (failsAs_sequence _).bind fun args _ => (failsAs_ofField fields).bind_pure
  | _ =>
    rw [nodes, firstDefect_cons]
    · exact failsAs_notAToken rfl
    · nofun

theorem failsAs_ofField (fields : List (String × Datum)) :
    FailsAs (ofField fields) (ThenFails
      (fun f => (Datum.field? fields "children").IsUnsequenced ∧ f = .wrongKind)
      (FirstDefect NodeDefect (fieldNodes fields))) := by
  cases fields with
  | nil => exact .ok (by simp [Datum.field?, Datum.IsUnsequenced, fieldNodes, ThenFails])
  | cons entry rest =>
    obtain ⟨name, value⟩ := entry
    rw [ofField, fieldNodes, Datum.field?, Record.get?_cons]
    by_cases hn : name = "children"
    · simpa [hn] using failsAs_ofChildren value
    · have hne : ("children" == name) = false := by simpa using Ne.symm hn
      simpa [hn, hne, Datum.field?] using failsAs_ofField rest

theorem failsAs_ofChildren (d : Datum) :
    FailsAs (ofChildren d) (ThenFails (fun f => d.IsUnsequenced ∧ f = .wrongKind)
      (FirstDefect NodeDefect (itemNodes d))) := by
  cases d with
  | list items =>
    rw [ofChildren, itemNodes, thenFails_of_none (by simp [Datum.IsUnsequenced])]
    exact failsAs_ofData items
  | tuple items =>
    rw [ofChildren, itemNodes, thenFails_of_none (by simp [Datum.IsUnsequenced])]
    exact failsAs_ofData items
  | _ => exact failsAs_items nofun nofun

theorem failsAs_ofData (items : List Datum) :
    FailsAs (ofData items) (FirstDefect NodeDefect (allNodes items)) := by
  cases items with
  | nil => exact .ok (by simp [allNodes])
  | cons d rest =>
    rw [ofData, allNodes, firstDefect_append]
    exact (failsAs_ofDatum d).bind fun token _ => (failsAs_ofData rest).bind_pure

end

theorem streamOf_of_list {document : Datum} (h : streamValue document = .list items) :
    streamOf document = ofData items := by
  dsimp only [streamOf]
  split
  · next found hfound =>
    have hvalue : streamValue document = .list found := hfound
    rw [Datum.list.inj (h.symm.trans hvalue)]
  · next hnone => exact absurd h (hnone items)

theorem streamOf_of_not_list {document : Datum} (h : ∀ items, streamValue document ≠ .list items) :
    streamOf document = .error (.malformedStream .notAList) := by
  dsimp only [streamOf]
  split
  · next items hitems => exact absurd hitems (h items)
  · rfl

/-- No defect of a node is an integer. -/
theorem not_nodeDefect_tooManyDigits (d : Datum) (count : Nat) :
    ¬ NodeDefect d (.tooManyDigits count) := by
  rintro ⟨before, check, after, hchecks, hcheck, -⟩
  have hmem : check ∈ checks := by simp [hchecks]
  simp only [checks, List.mem_cons, List.not_mem_nil, or_false] at hmem
  rcases hmem with rfl | rfl | rfl | rfl | rfl <;> simp at hcheck

/-- Loading counts digits exactly if reading stopped at an integer with so many. -/
theorem load_eq_tooManyDigits_iff {text : String} {count : Nat} :
    load text = .error (.tooManyDigits count) ↔ Json.parse text = .error (.digits count) := by
  cases hparse : Json.parse text with
  | error refusal => cases refusal <;> simp [load, hparse]
  | ok document =>
    refine iff_of_false ?_ nofun
    simp only [load, hparse]
    by_cases hstream : ∃ items, streamValue document = .list items
    · obtain ⟨items, hitems⟩ := hstream
      rw [streamOf_of_list hitems, failsAs_ofData items]
      rintro ⟨before, d, after, -, hd, -⟩
      exact not_nodeDefect_tooManyDigits d count hd
    · rw [streamOf_of_not_list fun items hitems => hstream ⟨items, hitems⟩]
      simp

/-- Loading fails exactly if a text is not JSON, if reading stops at an integer of the text because
it has too many digits, if the value of the text is no stream, or if a node of the stream has a
defect; the failure is that of the first such node in pre-order. Nothing is said of a text that
escapes half of a surrogate pair. -/
theorem loading_fails_at_first_defect (text : String) :
    (∀ fault, Json.parse text = .error (.fault fault) →
      load text = .error (.malformedStream (.notJson fault))) ∧
    (∀ count, (load text = .error (.tooManyDigits count) ↔
        Json.parse text = .error (.digits count)) ∧
      (Json.parse text = .error (.digits count) → Json.HasLongRun count text.toList)) ∧
    (∀ document, Json.parse text = .ok document →
      (∀ items, streamValue document ≠ .list items) →
        load text = .error (.malformedStream .notAList)) ∧
    (∀ document items, Json.parse text = .ok document → streamValue document = .list items →
      (∀ f, load text = .error f ↔ FirstDefect NodeDefect (items.flatMap nodes) f) ∧
        ((∃ tokens, load text = .ok tokens) ↔
          ∀ d ∈ items.flatMap nodes, ∀ f, ¬ NodeDefect d f)) := by
  refine ⟨fun fault hparse => ?_,
    fun count => ⟨load_eq_tooManyDigits_iff, Json.hasLongRun_of_parse⟩,
    fun document hparse hstream => ?_, fun document items hparse hstream => ?_⟩
  · simp only [load, hparse]
  · simp only [load, hparse, streamOf_of_not_list hstream]
  · have hfails : FailsAs (ofData items) (FirstDefect NodeDefect (items.flatMap nodes)) := by
      rw [← allNodes_eq_flatMap]
      exact failsAs_ofData items
    have hload : load text = ofData items := by
      simp only [load, hparse, streamOf_of_list hstream]
    rw [hload]
    exact ⟨hfails, hfails.exists_ok_iff.trans not_firstDefect_iff⟩

/-- An inline token whose attributes are pairs, if one of two characters is, and whose children are
an object, in front of what is no token. -/
def keyedSource : String :=
  "[\x7b\"type\": \"inline\", \"attrs\": [[\"id\", \"a\"], \"xy\"], " ++
    "\"children\": \x7b\"text\": []\x7d\x7d, null]"

def keyedFields : Record Datum :=
  [("type", .text "inline"), ("attrs", .list [.list [.text "id", .text "a"], .text "xy"]),
    ("children", .dict [("text", .list [])])]

theorem not_nodeDefect_keyedFields : ∀ f, ¬ NodeDefect (.dict keyedFields) f := by
  have hattrs : IsAttributes (.list [.list [.text "id", .text "a"], .text "xy"]) := by
    refine .inr (.inr ⟨_, .inl rfl, ?_⟩)
    simp [Datum.items?]
  exact not_nodeDefect .inline rfl hattrs id id

/-- The smallest integer that has too many digits. -/
def longDigits : List Char := '1' :: List.replicate Json.maxDigits '0'

/-- A text whose hash is that integer. -/
def longSource : String :=
  String.ofList ('[' :: '{' :: (Json.textFields [("type", "text"), ("content", "x")] ++
    (Json.fieldOpening "hashID" ++ (longDigits ++ "\x7d]".toList))))

def longFields : Record Datum :=
  [("type", .text "text"), ("content", .text "x"),
    ("hashID", .int (.ofNat (Nat.pow 10 Json.maxDigits)))]

theorem length_longDigits : longDigits.length = 4301 := by
  rw [longDigits, List.length_cons, List.length_replicate]
  rfl

theorem isLong_longDigits : Json.IsLong longDigits "\x7d]".toList where
  isDigit := by
    intro c hc
    rcases List.mem_cons.mp hc with rfl | hc
    · rfl
    · rw [List.eq_of_mem_replicate hc]
      rfl
  head := by simp [longDigits]
  length := by
    rw [length_longDigits]
    decide
  ends := by simp

theorem parse_longSource : Json.parse longSource = .error (.digits 4301) := by
  have hparse := Json.parse_of_isLong [("type", "text"), ("content", "x")] "hashID"
    (by simp [Json.IsPlain, or_imp, forall_and]) (by simp [Json.IsPlain]) isLong_longDigits
  rwa [length_longDigits] at hparse

theorem not_nodeDefect_longFields : ∀ d ∈ nodes (.dict longFields), ∀ f, ¬ NodeDefect d f := by
  intro d hd
  rw [show nodes (.dict longFields) = [.dict longFields] from rfl, List.mem_singleton] at hd
  subst hd
  exact not_nodeDefect .text rfl (.inl rfl) id id

/-- The name in the object of children is a node, and the first one that is no token. The text with
the long hash has no defect, and is not loaded all the same. -/
theorem loading_fails_at_first_defect_keyed :
    Json.parse keyedSource = .ok (.list [.dict keyedFields, .null]) ∧
      FirstDefect NodeDefect ([.dict keyedFields, .null].flatMap nodes)
        (.malformedStream (.notAToken "'text'")) ∧
      load keyedSource = .error (.malformedStream (.notAToken "'text'")) ∧
      Json.parse longSource = .error (.digits 4301) ∧
      load longSource = .error (.tooManyDigits 4301) ∧
      Json.HasLongRun 4301 longSource.toList ∧
      ∀ d ∈ nodes (.dict longFields), ∀ f, ¬ NodeDefect d f := by
  have hparse : Json.parse keyedSource = .ok (.list [.dict keyedFields, .null]) :=
    Json.parse_eq_of_same (by decide +kernel)
  have hnodes : [.dict keyedFields, .null].flatMap nodes =
      [.dict keyedFields, .text "text", .null] := rfl
  have hfirst : FirstDefect NodeDefect ([.dict keyedFields, .null].flatMap nodes)
      (.malformedStream (.notAToken "'text'")) := by
    rw [hnodes, firstDefect_cons, thenFails_of_none not_nodeDefect_keyedFields, firstDefect_cons]
    exact .inl ⟨[], _, _, rfl, ⟨rfl, by decide +kernel⟩, by simp⟩
  obtain ⟨-, -, -, hstream⟩ := loading_fails_at_first_defect keyedSource
  obtain ⟨-, hlong, -⟩ := loading_fails_at_first_defect longSource
  obtain ⟨hcount, hrun⟩ := hlong 4301
  exact ⟨hparse, hfirst, ((hstream _ _ hparse rfl).1 _).mpr hfirst, parse_longSource,
    hcount.mpr parse_longSource, hrun parse_longSource, not_nodeDefect_longFields⟩

end Token
end ChapterTex
