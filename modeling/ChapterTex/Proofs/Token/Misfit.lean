import ChapterTex.Proofs.Outcome
import ChapterTex.Token.Serialized

/-!
Serialized values that do not suit. Loading refuses what is no token and reports it, but it takes
integers as long as they come and goes through arguments and children whatever they are. Where one
of these does not suit, loading fails without a report.
-/
namespace ChapterTex
namespace Failure

def isReported : Failure → Bool
  | unknownToken _ | unsupportedHeading _ | malformedStream _ => true
  | _ => false

/-- The failures to use a value that does not suit. -/
def isValueFault : Failure → Bool
  | tooManyDigits _ | wrongKind | noSuchPart | missingArgument => true
  | _ => false

/-- A failure that is reported, or that a misfit accounts for. -/
def Excused (f : Failure) (misfit : Prop) : Prop :=
  f.isReported = true ∨ (f.isValueFault = true ∧ misfit)

theorem Excused.mono {f : Failure} {p q : Prop} (h : f.Excused p) (hpq : p → q) : f.Excused q :=
  h.imp_right fun hf => ⟨hf.1, hpq hf.2⟩

end Failure

/-- The outcome of a step that fails if there is a misfit, and else only with a report. -/
structure Guarded {α : Type} (misfit : Prop) (x : Except Failure α) : Prop where
  suits : ∀ {a}, x = .ok a → ¬ misfit
  fails : ∀ {f}, x = .error f → f.Excused misfit

namespace Guarded
variable {α β : Type} {p q : Prop} {x : Except Failure α} {f : Failure}

theorem ok {a : α} (h : ¬ p) : Guarded p (.ok a) where
  suits _ := h
  fails := nofun

theorem error (h : f.Excused p) : Guarded p (.error f : Except Failure α) where
  suits := nofun
  fails he := by
    cases he
    exact h

theorem report (h : f.isReported = true) : Guarded p (.error f : Except Failure α) :=
  error (.inl h)

theorem fault (hf : f.isValueFault = true) (h : p) : Guarded p (.error f : Except Failure α) :=
  error (.inr ⟨hf, h⟩)

theorem congr (h : Guarded p x) (hpq : p ↔ q) : Guarded q x := by
  rwa [← propext hpq]

/-- Steps in a row are guarded against the misfits of each. -/
theorem bind {g : α → Except Failure β} (hx : Guarded p x) (hg : ∀ a, x = .ok a → Guarded q (g a)) :
    Guarded (p ∨ q) (x >>= g) := by
  cases x with
  | error f => exact error ((hx.fails rfl).mono .inl)
  | ok a =>
    have ha := hg a rfl
    constructor
    · intro b hb hpq
      exact hpq.elim (hx.suits rfl) (ha.suits hb)
    · intro f' he
      exact (ha.fails he).mono .inr

theorem map {g : α → β} (h : Guarded p x) : Guarded p (g <$> x) := by
  cases x with
  | error f => exact error (h.fails rfl)
  | ok a => exact ok (h.suits rfl)

end Guarded

namespace Datum

/-- Whether a field with this value can be gone through. An absent one is empty. -/
def isSequence (d : Datum) : Bool := !d.truthy || d.items?.isSome

/-- Some object in a tree has arguments or children that cannot be gone through. -/
inductive Misfit : Datum → Prop
  | args {fields : Record Datum} (h : (field? fields "args").isSequence = false) :
      Misfit (.dict fields)
  | children {fields : Record Datum} (h : (field? fields "children").isSequence = false) :
      Misfit (.dict fields)
  | child {fields : Record Datum} {items : List Datum} {d : Datum}
      (hitems : (field? fields "children").items? = some items) (hd : d ∈ items) (h : Misfit d) :
      Misfit (.dict fields)

def MisfitChildren (d : Datum) : Prop :=
  d.isSequence = false ∨ ∃ items, d.items? = some items ∧ ∃ i ∈ items, Misfit i

theorem misfit_dict_iff {fields : Record Datum} :
    Misfit (.dict fields) ↔
      (field? fields "args").isSequence = false ∨ MisfitChildren (field? fields "children") := by
  constructor
  · intro h
    cases h with
    | args h => exact .inl h
    | children h => exact .inr (.inl h)
    | child hitems hd h => exact .inr (.inr ⟨_, hitems, _, hd, h⟩)
  · rintro (h | h | ⟨items, hitems, d, hd, h⟩)
    · exact .args h
    · exact .children h
    · exact .child hitems hd h

/-- The characters of a text and the names of a record are no objects. -/
theorem not_misfit_of_mem_items {d : Datum} {items : List Datum} (hlist : ∀ l, d ≠ .list l)
    (htuple : ∀ l, d ≠ .tuple l) (h : d.items? = some items) : ∀ i ∈ items, ¬ Misfit i := by
  intro i hi hm
  cases d with
  | list l => exact hlist l rfl
  | tuple l => exact htuple l rfl
  | text s | latex s | dict fields =>
    obtain rfl := Option.some.inj h
    obtain ⟨_, -, rfl⟩ := List.mem_map.mp hi
    cases hm
  | _ => cases h

end Datum

namespace Token
open Datum (Misfit MisfitChildren)

theorem guarded_ofKind (d : Datum) : Guarded False (TokenKind.ofDatum d) := by
  unfold TokenKind.ofDatum
  split
  · exact .ok id
  · exact .report rfl

theorem guarded_attributes (d : Datum) : Guarded False (attributes d) := by
  unfold attributes
  split
  · exact .ok id
  · split
    · exact .ok id
    · split
      · exact .ok id
      · exact .report rfl

theorem guarded_sequence (d : Datum) : Guarded (d.isSequence = false) (sequence d) := by
  unfold sequence Datum.isSequence
  cases d.truthy with
  | false => exact .ok (by simp)
  | true =>
    cases d.items? with
    | none => exact .fault rfl rfl
    | some items => exact .ok (by simp)

/-- The items of a value other than a list are no tokens. -/
theorem guarded_items {d : Datum} (hlist : ∀ l, d ≠ .list l) (htuple : ∀ l, d ≠ .tuple l) :
    Guarded (MisfitChildren d) (ofChildren d) := by
  have hitems : ¬ ∃ items, d.items? = some items ∧ ∃ i ∈ items, Misfit i := by
    rintro ⟨items, h, i, hi, hm⟩
    exact Datum.not_misfit_of_mem_items hlist htuple h i hi hm
  rw [ofChildren]
  · refine Guarded.bind (guarded_sequence d) fun items _ => ?_
    cases items with
    | nil => exact .ok hitems
    | cons item rest => exact .report rfl
  · exact hlist
  · exact htuple

-- The recursion is that of loading: from an object to its fields, its children and their fields.
mutual

theorem guarded_ofDatum (d : Datum) : Guarded (Misfit d) (ofDatum d) := by
  cases d with
  | dict fields =>
    rw [ofDatum]
    cases Record.get? fields "type" with
    | none => exact .report rfl
    | some type =>
      refine Guarded.congr (.bind (guarded_ofKind _) fun kind _ => .bind (guarded_attributes _)
        fun attrs _ => .bind (guarded_sequence _) fun args _ => .bind (guarded_ofField fields)
          fun children _ => .ok id) ?_
      rw [Datum.misfit_dict_iff]
      simp
  | _ => exact .report rfl

theorem guarded_ofField (fields : List (String × Datum)) :
    Guarded (MisfitChildren (Datum.field? fields "children")) (ofField fields) := by
  cases fields with
  | nil =>
    refine .ok ?_
    rintro (h | ⟨items, h, -⟩) <;> cases h
  | cons entry rest =>
    obtain ⟨name, value⟩ := entry
    rw [ofField, Datum.field?, Record.get?_cons]
    by_cases hn : name = "children"
    · rw [hn]
      exact guarded_ofChildren value
    · have hne : ("children" == name) = false := by simpa using Ne.symm hn
      simpa [hn, hne, Datum.field?] using guarded_ofField rest

theorem guarded_ofChildren (d : Datum) : Guarded (MisfitChildren d) (ofChildren d) := by
  cases d with
  | list items =>
    rw [ofChildren]
    exact (guarded_ofData items).congr (by simp [MisfitChildren, Datum.isSequence, Datum.items?])
  | tuple items =>
    rw [ofChildren]
    exact (guarded_ofData items).congr (by simp [MisfitChildren, Datum.isSequence, Datum.items?])
  | _ => exact guarded_items nofun nofun

theorem guarded_ofData (items : List Datum) : Guarded (∃ d ∈ items, Misfit d) (ofData items) := by
  cases items with
  | nil => exact .ok (by simp)
  | cons d rest =>
    rw [ofData]
    refine Guarded.congr (.bind (guarded_ofDatum d) fun token _ => .bind (guarded_ofData rest)
      fun tokens _ => .ok id) ?_
    simp

end

def streamValue : Datum → Datum
  | .dict fields => Datum.field? fields "tokens"
  | other => other

/-- Reading a text stops at an integer with too many digits, or some object in the stream of the
text has arguments or children that cannot be gone through. -/
def MisfitText (text : String) : Prop :=
  (∃ count, Json.parse text = .error (.digits count)) ∨
    ∃ document items, Json.parse text = .ok document ∧ streamValue document = .list items ∧
      ∃ d ∈ items, Misfit d

/-- Loading fails if a value does not suit, and else only with a report. -/
theorem guarded_load {text : String} (hpaired : Json.parse text ≠ .error .halfPair) :
    Guarded (MisfitText text) (load text) := by
  unfold load
  cases hparse : Json.parse text with
  | error refusal =>
    cases refusal with
    | fault fault => exact .report rfl
    | digits count => exact .fault rfl (.inl ⟨count, hparse⟩)
    | halfPair => exact absurd hparse hpaired
  | ok document =>
    dsimp only [streamOf]
    split
    · next items hlist =>
      have hvalue : streamValue document = .list items := hlist
      exact (guarded_ofData items).congr (by simp [MisfitText, hparse, hvalue])
    · exact .report rfl

end Token
end ChapterTex
