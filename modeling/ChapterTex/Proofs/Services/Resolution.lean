import Mathlib.Data.List.Perm.Subperm
import Mathlib.Logic.Relation
import ChapterTex.Services

/-!
Resolution of keys as a relation that follows the needs of factories and tells what happens on the
way. Where no key needs itself, not even through others, this is what a container does.
-/
namespace ChapterTex

inductive Event where
  | registered (key : String) (factory : Factory)
  /-- The factory of a key ran to its end. -/
  | built (key : String) (service : Service)
  /-- A key was resolved, by itself or for a service that needs it. -/
  | returned (key : String) (service : Service)
deriving Repr

/-- The key is not registered in these events. -/
def Event.Untouched (key : String) (log : List Event) : Prop :=
  ∀ factory, .registered key factory ∉ log

namespace Container

/-- The service that a factory makes next. -/
def make (c : Container) (factory : Factory) (parts : List Service) : Service :=
  .built factory.name (c.count + 1) parts

def keep (c : Container) (key : String) (service : Service) : Container :=
  { c with count := c.count + 1, services := c.services.put key service }

/-- The keys are resolved one after the other, with these events on the way. A key is resolved to
the service that is kept under it, or else its needs are resolved and its factory makes one. -/
inductive ResolvesAll :
    List String → Container → List Event → Except Failure (List Service) → Container → Prop
  | nil (c : Container) : ResolvesAll [] c [] (.ok []) c
  | kept {key rest c service log outcome c'} (hkept : c.services.get? key = some service)
      (hrest : ResolvesAll rest c log outcome c') :
      ResolvesAll (key :: rest) c (.returned key service :: log) (outcome.map (service :: ·)) c'
  | unregistered {key c} (rest : List String) (hnew : c.services.get? key = none)
      (hnone : c.factories.get? key = none) :
      ResolvesAll (key :: rest) c [] (.error (.unregistered key)) c
  | failed {key c factory log e c'} (rest : List String) (hnew : c.services.get? key = none)
      (hfactory : c.factories.get? key = some factory)
      (hneeds : ResolvesAll factory.needs c log (.error e) c') :
      ResolvesAll (key :: rest) c log (.error e) c'
  | built {key rest c factory log parts c₁ log' outcome c'} (hnew : c.services.get? key = none)
      (hfactory : c.factories.get? key = some factory)
      (hneeds : ResolvesAll factory.needs c log (.ok parts) c₁)
      (hrest : ResolvesAll rest (c₁.keep key (c₁.make factory parts)) log' outcome c') :
      ResolvesAll (key :: rest) c
        (log ++ .built key (c₁.make factory parts) :: .returned key (c₁.make factory parts) :: log')
        (outcome.map (c₁.make factory parts :: ·)) c'

variable {c c' : Container} {factories : Record Factory} {key need : String} {keys : List String}
  {service : Service} {log : List Event} {outcome : Except Failure (List Service)}

theorem ResolvesAll.factories_eq (h : ResolvesAll keys c log outcome c') :
    c'.factories = c.factories := by
  induction h with
  | nil | unregistered => rfl
  | kept _ _ ih => exact ih
  | failed _ _ _ _ ih => exact ih
  | built _ _ _ _ ihneeds ihrest => exact ihrest.trans ihneeds

theorem ResolvesAll.untouched (h : ResolvesAll keys c log outcome c') :
    Event.Untouched key log := by
  intro factory
  induction h with
  | nil | unregistered => exact List.not_mem_nil
  | kept _ _ ih => simpa using ih
  | failed _ _ _ _ ih => exact ih
  | built _ _ _ _ ihneeds ihrest => simp [ihneeds, ihrest]

def Needs (factories : Record Factory) (key need : String) : Prop :=
  ∃ factory, factories.get? key = some factory ∧ need ∈ factory.needs

def Acyclic (factories : Record Factory) : Prop :=
  ∀ key, ¬ Relation.TransGen (Needs factories) key key

/-- Only the keys and what they need, directly or through others, is built. -/
theorem ResolvesAll.needed_of_built (h : ResolvesAll keys c log outcome c')
    (hbuilt : .built need service ∈ log) :
    ∃ key ∈ keys, Relation.ReflTransGen (Needs c.factories) key need := by
  induction h with
  | nil | unregistered => cases hbuilt
  | kept _ _ ih =>
    obtain ⟨key, hkey, hpath⟩ := ih (by simpa using hbuilt)
    exact ⟨key, List.mem_cons_of_mem _ hkey, hpath⟩
  | failed _ _ hfactory _ ih =>
    obtain ⟨key, hkey, hpath⟩ := ih hbuilt
    exact ⟨_, List.mem_cons_self, hpath.head ⟨_, hfactory, hkey⟩⟩
  | built _ hfactory hneeds _ ihneeds ihrest =>
    rcases List.mem_append.mp hbuilt with hbuilt | hbuilt
    · obtain ⟨key, hkey, hpath⟩ := ihneeds hbuilt
      exact ⟨_, List.mem_cons_self, hpath.head ⟨_, hfactory, hkey⟩⟩
    · simp only [List.mem_cons, Event.built.injEq, reduceCtorEq, false_or] at hbuilt
      rcases hbuilt with ⟨rfl, -⟩ | hbuilt
      · exact ⟨_, List.mem_cons_self, .refl⟩
      · obtain ⟨key, hkey, hpath⟩ := ihrest hbuilt
        rw [keep, hneeds.factories_eq] at hpath
        exact ⟨key, List.mem_cons_of_mem _ hkey, hpath⟩

/-! The container follows the relation. -/

section
variable {resolve : String → Container → Except Failure Service × Container} {rest : List String}

theorem resolveAll_cons_of_ok (h : resolve key c = (.ok service, c')) :
    resolveAll resolve (key :: rest) c =
      ((resolveAll resolve rest c').1.map (service :: ·), (resolveAll resolve rest c').2) := by
  simp only [resolveAll, h]
  rcases resolveAll resolve rest c' with ⟨_ | _, _⟩ <;> rfl

theorem resolveAll_cons_of_error {e : Failure} (h : resolve key c = (.error e, c')) :
    resolveAll resolve (key :: rest) c = (.error e, c') := by
  simp only [resolveAll, h]

end

theorem length_le_of_registered {path : List String} (hnodup : path.Nodup)
    (hpath : ∀ key ∈ path, (factories.get? key).isSome) : path.length ≤ factories.length := by
  have hsubset : path ⊆ factories.map Prod.fst := by
    intro key hkey
    by_contra hnot
    have hnone : factories.get? key = none := by
      rw [Record.get?, List.lookup_eq_none_iff]
      rintro entry hentry
      rw [bne_iff_ne]
      rintro rfl
      exact hnot (List.mem_map_of_mem hentry)
    have hsome := hpath key hkey
    rw [hnone] at hsome
    cases hsome
  simpa using (List.subperm_of_subset hnodup hsubset).length_le

/-- The container resolves these keys the way the relation tells. -/
def Traced (depth : Nat) (keys : List String) (c : Container) : Prop :=
  ∃ log, ResolvesAll keys c log (resolveAll (resolveWithin depth) keys c).1
    (resolveAll (resolveWithin depth) keys c).2

/-- A key is traced if its needs are, with one level less to go, and the keys after it. -/
theorem traced_cons {depth : Nat} {rest : List String}
    (hneeds : ∀ factory, c.factories.get? key = some factory → Traced depth factory.needs c)
    (hrest : ∀ c₁, c₁.factories = c.factories → Traced (depth + 1) rest c₁) :
    Traced (depth + 1) (key :: rest) c := by
  unfold Traced
  cases hservice : c.services.get? key with
  | some service =>
    have hresolve : resolveWithin (depth + 1) key c = (.ok service, c) := by
      simp only [resolveWithin, hservice]
    rw [resolveAll_cons_of_ok hresolve]
    obtain ⟨log, hlog⟩ := hrest c rfl
    exact ⟨_, .kept hservice hlog⟩
  | none =>
    cases hfactory : c.factories.get? key with
    | none =>
      have hresolve : resolveWithin (depth + 1) key c = (.error (.unregistered key), c) := by
        simp only [resolveWithin, hservice, hfactory]
      rw [resolveAll_cons_of_error hresolve]
      exact ⟨_, .unregistered rest hservice hfactory⟩
    | some factory =>
      obtain ⟨log, hlog⟩ := hneeds factory hfactory
      rcases hparts : resolveAll (resolveWithin depth) factory.needs c with ⟨e | parts, c₁⟩
      · rw [hparts] at hlog
        have hresolve : resolveWithin (depth + 1) key c = (.error e, c₁) := by
          simp only [resolveWithin, hservice, hfactory, hparts]
        rw [resolveAll_cons_of_error hresolve]
        exact ⟨_, .failed rest hservice hfactory hlog⟩
      · rw [hparts] at hlog
        have hresolve : resolveWithin (depth + 1) key c =
            (.ok (c₁.make factory parts), c₁.keep key (c₁.make factory parts)) := by
          simp only [resolveWithin, hservice, hfactory, hparts]
          rfl
        rw [resolveAll_cons_of_ok hresolve]
        obtain ⟨log', hlog'⟩ := hrest (c₁.keep key (c₁.make factory parts)) hlog.factories_eq
        exact ⟨_, .built hservice hfactory hlog hlog'⟩

/-- Keys below a path of needs are traced, since the path cannot grow longer than the record of
factories. -/
theorem traced_of_path (hacyclic : Acyclic factories) (depth : Nat) (path keys : List String)
    (c : Container) (hc : c.factories = factories) (hnodup : path.Nodup)
    (hpath : ∀ user ∈ path, (factories.get? user).isSome)
    (hkeys : ∀ key ∈ keys, ∀ user ∈ path, Relation.TransGen (Needs factories) user key)
    (hdepth : factories.length < depth + path.length) : Traced depth keys c := by
  induction depth generalizing path keys c with
  | zero =>
    have hlength := length_le_of_registered hnodup hpath
    omega
  | succ depth ih =>
    induction keys generalizing c with
    | nil => exact ⟨[], .nil c⟩
    | cons key rest ihrest =>
      obtain ⟨hkey, hrest⟩ := List.forall_mem_cons.mp hkeys
      refine traced_cons ?_ fun c₁ hc₁ => ihrest c₁ (hc₁.trans hc) hrest
      intro factory hfactory
      rw [hc] at hfactory
      have hneed : ∀ need ∈ factory.needs, Needs factories key need :=
        fun need hmem => ⟨factory, hfactory, hmem⟩
      -- The key is not on the path, where it would need itself.
      have hnew : key ∉ path := fun hmem => hacyclic key (hkey key hmem)
      refine ih (key :: path) factory.needs c hc (List.nodup_cons.mpr ⟨hnew, hnodup⟩) ?_ ?_ ?_
      · rw [List.forall_mem_cons]
        exact ⟨Option.isSome_of_eq_some hfactory, hpath⟩
      · intro need hmem
        rw [List.forall_mem_cons]
        exact ⟨.single (hneed need hmem),
          fun user huser => (hkey user huser).tail (hneed need hmem)⟩
      · rw [List.length_cons]
        omega

/-- Without a cycle of needs, the depth that a container allows itself is enough. -/
theorem exists_resolvesAll (hacyclic : Acyclic c.factories) (key : String) :
    ∃ log, ResolvesAll [key] c log ((c.resolve key).1.map ([·])) (c.resolve key).2 := by
  have hlog : Traced (c.factories.length + 2) [key] c :=
    traced_of_path hacyclic _ [] [key] c rfl List.nodup_nil (by simp) (by simp)
      (by rw [List.length_nil]; omega)
  have hall : resolveAll (resolveWithin (c.factories.length + 2)) [key] c =
      ((c.resolve key).1.map ([·]), (c.resolve key).2) := by
    cases hresolve : c.resolve key with
    | mk result c' =>
    cases result with
    | error e => exact resolveAll_cons_of_error hresolve
    | ok service => exact resolveAll_cons_of_ok hresolve
  rwa [Traced, hall] at hlog

end Container
end ChapterTex
