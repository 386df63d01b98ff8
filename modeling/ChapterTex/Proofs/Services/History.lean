import Mathlib.Data.List.Forall2
import ChapterTex.Proofs.Record
import ChapterTex.Proofs.Services.Resolution

/-!
The history of a container, event by event. A service that is kept under a key stays there until the
key is registered again, so the events of a history tell which service that is.
-/
namespace ChapterTex

/-- The service was the last one built for the key, and the key was not registered since. -/
def Event.Current (key : String) (service : Service) (log : List Event) : Prop :=
  ∃ us vs, log = us ++ .built key service :: vs ∧ Untouched key vs

theorem Event.Current.prepend {key : String} {service : Service} {log : List Event}
    (h : Current key service log) (front : List Event) : Current key service (front ++ log) := by
  obtain ⟨us, vs, rfl, hvs⟩ := h
  exact ⟨front ++ us, vs, by rw [List.append_assoc], hvs⟩

def Event.isBuilt : Event → Bool
  | built _ _ => true
  | _ => false

namespace Container

section
variable (c : Container) (key : String) (factory : Factory) (service : Service) {query : String}

@[simp] theorem get?_services_register_self :
    (c.register key factory).services.get? key = none := by
  rw [register, Record.get?_filter_ne, beq_self_eq_true, if_pos rfl]

theorem get?_services_register_of_ne (h : query ≠ key) :
    (c.register key factory).services.get? query = c.services.get? query := by
  rw [register, Record.get?_filter_ne, beq_false_of_ne h, if_neg Bool.false_ne_true]

@[simp] theorem get?_factories_register_self :
    (c.register key factory).factories.get? key = some factory := by
  rw [register, Record.get?_put, beq_self_eq_true, if_pos rfl]

theorem get?_factories_register_of_ne (h : query ≠ key) :
    (c.register key factory).factories.get? query = c.factories.get? query := by
  rw [register, Record.get?_put, beq_false_of_ne h, if_neg Bool.false_ne_true]

@[simp] theorem get?_services_keep_self :
    (c.keep key service).services.get? key = some service := by
  rw [keep, Record.get?_put, beq_self_eq_true, if_pos rfl]

theorem get?_services_keep_of_ne (h : query ≠ key) :
    (c.keep key service).services.get? query = c.services.get? query := by
  rw [keep, Record.get?_put, beq_false_of_ne h, if_neg Bool.false_ne_true]

@[simp] theorem count_keep : (c.keep key service).count = c.count + 1 := rfl

end

/-- What each event needs and what it changes. A factory runs only while nothing is kept under its
key, and takes what is kept under the keys that it needs. -/
inductive Happens : Container → Event → Container → Prop
  | registered (c : Container) (key : String) (factory : Factory) :
      Happens c (.registered key factory) (c.register key factory)
  | built {c key factory parts} (hnew : c.services.get? key = none)
      (hfactory : c.factories.get? key = some factory)
      (hparts : factory.needs.Forall₂ (fun need part => c.services.get? need = some part) parts) :
      Happens c (.built key (c.make factory parts)) (c.keep key (c.make factory parts))
  | returned {c key service} (hkept : c.services.get? key = some service) :
      Happens c (.returned key service) c

inductive History : Container → List Event → Container → Prop
  | nil (c : Container) : History c [] c
  | cons {c event c₁ log c'} (hevent : Happens c event c₁) (hrest : History c₁ log c') :
      History c (event :: log) c'

variable {c c₁ c' : Container} {key : String} {service : Service} {event : Event}
  {log : List Event} {keys : List String} {outcome : Except Failure (List Service)}

theorem History.append {log' : List Event} (h : History c log c₁) (h' : History c₁ log' c') :
    History c (log ++ log') c' := by
  induction h with
  | nil => exact h'
  | cons hevent _ ih => exact .cons hevent (ih h')

theorem History.split {us vs : List Event} (h : History c (us ++ vs) c') :
    ∃ c₁, History c us c₁ ∧ History c₁ vs c' := by
  induction us generalizing c with
  | nil => exact ⟨c, .nil c, h⟩
  | cons event us ih =>
    cases h with
    | cons hevent hrest =>
      obtain ⟨c₁, hus, hvs⟩ := ih hrest
      exact ⟨c₁, .cons hevent hus, hvs⟩

/-- An event in a history happens between a history before and a history after. -/
theorem History.split_cons {us vs : List Event} (h : History c (us ++ event :: vs) c') :
    ∃ c₁ c₂, History c us c₁ ∧ Happens c₁ event c₂ ∧ History c₂ vs c' := by
  obtain ⟨c₁, hus, hrest⟩ := h.split
  cases hrest with
  | cons hevent hvs => exact ⟨c₁, _, hus, hevent, hvs⟩

/-! A kept service stays. -/

theorem Happens.kept (h : Happens c event c') (hevent : ∀ factory, event ≠ .registered key factory)
    (hkept : c.services.get? key = some service) : c'.services.get? key = some service := by
  cases h with
  | registered key' factory =>
    have hne : key ≠ key' := by
      rintro rfl
      exact hevent factory rfl
    rw [get?_services_register_of_ne c key' factory hne, hkept]
  | @built key' _ _ hnew _ _ =>
    have hne : key ≠ key' := by
      rintro rfl
      rw [hnew] at hkept
      cases hkept
    rw [get?_services_keep_of_ne c key' _ hne, hkept]
  | returned _ => exact hkept

theorem History.kept (h : History c log c') (hlog : Event.Untouched key log)
    (hkept : c.services.get? key = some service) : c'.services.get? key = some service := by
  induction h with
  | nil => exact hkept
  | cons hevent _ ih =>
    have hrest := fun factory hmem => hlog factory (List.mem_cons_of_mem _ hmem)
    refine ih hrest (hevent.kept ?_ hkept)
    rintro factory rfl
    exact hlog factory List.mem_cons_self

/-- What is kept now was kept before, or is what the event made. -/
theorem Happens.kept_before (h : Happens c event c') (hkept : c'.services.get? key = some service) :
    (c.services.get? key = some service ∧ ∀ factory, event ≠ .registered key factory) ∨
      event = .built key service := by
  cases h with
  | registered key' factory =>
    by_cases hkey : key = key'
    · subst hkey
      rw [get?_services_register_self] at hkept
      cases hkept
    · rw [get?_services_register_of_ne c key' factory hkey] at hkept
      refine .inl ⟨hkept, ?_⟩
      rintro factory' heq
      cases heq
      exact hkey rfl
  | @built key' _ _ _ _ _ =>
    by_cases hkey : key = key'
    · subst hkey
      rw [get?_services_keep_self] at hkept
      cases hkept
      exact .inr rfl
    · rw [get?_services_keep_of_ne c key' _ hkey] at hkept
      exact .inl ⟨hkept, nofun⟩
  | returned _ => exact .inl ⟨hkept, nofun⟩

/-- What is kept was kept all the time, or the history tells when it was built. -/
theorem History.current (h : History c log c') (hkept : c'.services.get? key = some service) :
    (c.services.get? key = some service ∧ Event.Untouched key log) ∨
      Event.Current key service log := by
  induction h with
  | nil => exact .inl ⟨hkept, fun _ => List.not_mem_nil⟩
  | @cons _ event _ log _ hevent _ ih =>
    rcases ih hkept with ⟨hstart, hlog⟩ | hcurrent
    · rcases hevent.kept_before hstart with ⟨hbefore, hne⟩ | rfl
      · refine .inl ⟨hbefore, fun factory hmem => ?_⟩
        rcases List.mem_cons.mp hmem with heq | hmem
        · exact hne factory heq.symm
        · exact hlog factory hmem
      · exact .inr ⟨[], log, rfl, hlog⟩
    · exact .inr (hcurrent.prepend [event])

theorem History.count_eq (h : History c log c') :
    c'.count = c.count + log.countP Event.isBuilt := by
  induction h with
  | nil => rfl
  | cons hevent _ ih =>
    cases hevent with
    | registered => exact ih
    | returned => exact ih
    | built =>
      rw [ih, count_keep, List.countP_cons_of_pos rfl]
      omega

theorem History.factory_eq (h : History c log c') (hlog : Event.Untouched key log) :
    c'.factories.get? key = c.factories.get? key := by
  induction h with
  | nil => rfl
  | cons hevent _ ih =>
    rw [ih fun factory hmem => hlog factory (List.mem_cons_of_mem _ hmem)]
    cases hevent with
    | registered key' factory =>
      have hne : key ≠ key' := by
        rintro rfl
        exact hlog factory List.mem_cons_self
      exact get?_factories_register_of_ne _ key' factory hne
    | built => rfl
    | returned => rfl

/-- A key without a service has none after its needs are resolved: otherwise it would need
itself. -/
theorem ResolvesAll.key_not_kept {factory : Factory}
    (h : ResolvesAll factory.needs c log outcome c') (hhistory : History c log c')
    (hacyclic : Acyclic c.factories) (hnew : c.services.get? key = none)
    (hfactory : c.factories.get? key = some factory) : c'.services.get? key = none := by
  rw [Option.eq_none_iff_forall_ne_some]
  intro service hservice
  rcases hhistory.current hservice with ⟨hkept, -⟩ | ⟨us, vs, rfl, -⟩
  · rw [hnew] at hkept
    cases hkept
  · have hbuilt : Event.built key service ∈ us ++ .built key service :: vs := by simp
    obtain ⟨need, hneed, hpath⟩ := h.needed_of_built hbuilt
    exact hacyclic key (.head' ⟨factory, hfactory, hneed⟩ hpath)

/-- A resolution without cycles is a history, and in the end the services it gives are kept. -/
theorem ResolvesAll.history (h : ResolvesAll keys c log outcome c')
    (hacyclic : Acyclic c.factories) :
    History c log c' ∧ ∀ parts, outcome = .ok parts →
      keys.Forall₂ (fun key part => c'.services.get? key = some part) parts := by
  induction h with
  | nil c =>
    refine ⟨.nil c, fun parts hparts => ?_⟩
    cases hparts
    exact .nil
  | unregistered => exact ⟨.nil _, nofun⟩
  | failed _ _ _ _ ih => exact ⟨(ih hacyclic).1, nofun⟩
  | @kept key rest c service log outcome c' hkept hrest ih =>
    obtain ⟨hhistory, hparts⟩ := ih hacyclic
    refine ⟨.cons (.returned hkept) hhistory, fun all hall => ?_⟩
    cases outcome with
    | error e => cases hall
    | ok parts =>
      cases hall
      exact .cons (hhistory.kept hrest.untouched hkept) (hparts parts rfl)
  | @built key rest c factory log parts c₁ log' outcome c' hnew hfactory hneeds hrest
      ihneeds ihrest =>
    obtain ⟨hbefore, hparts⟩ := ihneeds hacyclic
    obtain ⟨hafter, hmore⟩ := ihrest (hneeds.factories_eq.symm ▸ hacyclic)
    have hnew₁ := hneeds.key_not_kept hbefore hacyclic hnew hfactory
    have hfactory₁ : c₁.factories.get? key = some factory := by rw [hneeds.factories_eq, hfactory]
    have hkept := get?_services_keep_self c₁ key (c₁.make factory parts)
    refine ⟨hbefore.append (.cons (.built hnew₁ hfactory₁ (hparts parts rfl))
      (.cons (.returned hkept) hafter)), fun all hall => ?_⟩
    cases outcome with
    | error e => cases hall
    | ok services =>
      cases hall
      exact .cons (hafter.kept hrest.untouched hkept) (hmore services rfl)

end Container
end ChapterTex
