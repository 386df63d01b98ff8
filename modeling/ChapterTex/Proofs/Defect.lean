import ChapterTex.Failure

/-!
Steps that fail at defects. Such steps in a row fail at the first of their defects, and a run over a
list fails at the first defect in it.
-/
namespace ChapterTex
variable {α β : Type}

/-- The failures of a step, or those of the next one if the first has none. -/
def ThenFails (p q : Failure → Prop) (f : Failure) : Prop := p f ∨ (∀ e, ¬ p e) ∧ q f

/-- `f` is the failure of the first element of a list that has a defect. -/
def FirstDefect (defect : α → Failure → Prop) (xs : List α) (f : Failure) : Prop :=
  ∃ before x after, xs = before ++ x :: after ∧ defect x f ∧ ∀ y ∈ before, ∀ e, ¬ defect y e

/-- A step fails exactly with the failures of which `p` holds. -/
def FailsAs (x : Except Failure α) (p : Failure → Prop) : Prop := ∀ f, x = .error f ↔ p f

section
variable {p q r : Failure → Prop} {f : Failure}

theorem not_thenFails_iff : (∀ e, ¬ ThenFails p q e) ↔ (∀ e, ¬ p e) ∧ ∀ e, ¬ q e := by
  constructor
  · intro h
    have hp : ∀ e, ¬ p e := fun e he => h e (.inl he)
    exact ⟨hp, fun e he => h e (.inr ⟨hp, he⟩)⟩
  · rintro ⟨hp, hq⟩ e (he | ⟨-, he⟩)
    · exact hp e he
    · exact hq e he

theorem thenFails_assoc : ThenFails (ThenFails p q) r = ThenFails p (ThenFails q r) := by
  funext f
  rw [eq_iff_iff, ThenFails, not_thenFails_iff]
  simp only [ThenFails, and_or_left, or_assoc, and_assoc]

theorem thenFails_of_none (h : ∀ e, ¬ p e) : ThenFails p q = q := by
  funext f
  simp [ThenFails, h]

@[simp] theorem thenFails_none_right : ThenFails p (fun _ => False) = p := by
  funext f
  simp [ThenFails]

/-- Two steps that fail in one way fail like one step. -/
theorem thenFails_same {a b : Prop} {e : Failure} :
    ThenFails (fun f => a ∧ f = e) (fun f => b ∧ f = e) = fun f => (a ∨ b) ∧ f = e := by
  funext f
  by_cases ha : a <;> simp [ThenFails, ha]

end

section
variable {defect : α → Failure → Prop} {x : α} {xs ys : List α}

@[simp] theorem firstDefect_nil : FirstDefect defect [] = fun _ => False := by
  funext f
  simp [FirstDefect]

theorem firstDefect_cons :
    FirstDefect defect (x :: xs) = ThenFails (defect x) (FirstDefect defect xs) := by
  funext f
  rw [eq_iff_iff]
  constructor
  · rintro ⟨before, y, after, hsplit, hy, hbefore⟩
    cases before with
    | nil =>
      obtain ⟨rfl, -⟩ := List.cons.inj hsplit
      exact .inl hy
    | cons b before =>
      obtain ⟨rfl, hrest⟩ := List.cons.inj hsplit
      obtain ⟨hx, hbefore⟩ := List.forall_mem_cons.mp hbefore
      exact .inr ⟨hx, before, y, after, hrest, hy, hbefore⟩
  · rintro (hx | ⟨hx, before, y, after, rfl, hy, hbefore⟩)
    · exact ⟨[], x, xs, rfl, hx, by simp⟩
    · exact ⟨x :: before, y, after, rfl, hy, List.forall_mem_cons.mpr ⟨hx, hbefore⟩⟩

theorem firstDefect_append :
    FirstDefect defect (xs ++ ys) =
      ThenFails (FirstDefect defect xs) (FirstDefect defect ys) := by
  induction xs with
  | nil => rw [List.nil_append, firstDefect_nil, thenFails_of_none fun _ => id]
  | cons x xs ih => rw [List.cons_append, firstDefect_cons, ih, firstDefect_cons, thenFails_assoc]

theorem not_firstDefect_iff :
    (∀ f, ¬ FirstDefect defect xs f) ↔ ∀ x ∈ xs, ∀ f, ¬ defect x f := by
  induction xs with
  | nil => simp
  | cons x xs ih => rw [firstDefect_cons, not_thenFails_iff, ih, List.forall_mem_cons]

end

namespace FailsAs
variable {p q : Failure → Prop} {x : Except Failure α}

theorem ok {a : α} (h : ∀ f, ¬ p f) : FailsAs (.ok a) p :=
  fun f => iff_of_false nofun (h f)

theorem succeeds {a : α} : FailsAs (.ok a) fun _ => False := ok fun _ => id

theorem error {e : Failure} (h : ∀ f, p f ↔ f = e) : FailsAs (.error e : Except Failure α) p :=
  fun f => by rw [h, Except.error.injEq, eq_comm]

/-- A step that has failed goes no further. -/
theorem error_then {e : Failure} (h : ∀ f, p f ↔ f = e) :
    FailsAs (.error e : Except Failure α) (ThenFails p q) := by
  refine error fun f => ?_
  rw [ThenFails, h, or_iff_left]
  exact fun hnone => hnone.1 e ((h e).mpr rfl)

theorem congr (h : FailsAs x p) (hpq : ∀ f, p f ↔ q f) : FailsAs x q :=
  fun f => (h f).trans (hpq f)

/-- A step gives a result exactly if it has none of its failures. -/
theorem exists_ok_iff (h : FailsAs x p) : (∃ a, x = .ok a) ↔ ∀ f, ¬ p f := by
  simp only [← h _]
  cases x <;> simp

theorem bind {g : α → Except Failure β} (hx : FailsAs x p)
    (hg : ∀ a, x = .ok a → FailsAs (g a) q) : FailsAs (x >>= g) (ThenFails p q) := by
  cases x with
  | error e =>
    have hp : p e := (hx e).mp rfl
    have hfails : (Except.error e >>= g : Except Failure β) = .error e := rfl
    intro f
    rw [hfails, Except.error.injEq]
    constructor
    · rintro rfl
      exact .inl hp
    · rintro (hf | ⟨hnone, -⟩)
      · exact Except.error.inj ((hx f).mpr hf)
      · exact absurd hp (hnone e)
  | ok a =>
    have hp : ∀ f, ¬ p f := hx.exists_ok_iff.mp ⟨a, rfl⟩
    rw [thenFails_of_none hp]
    exact hg a rfl

theorem bind_pure {g : α → β} (h : FailsAs x p) : FailsAs (x >>= fun a => pure (g a)) p := by
  simpa using h.bind (q := fun _ => False) (g := fun a => pure (g a)) fun a _ => succeeds

theorem map {g : α → β} (h : FailsAs x p) : FailsAs (g <$> x) p := by
  rw [map_eq_pure_bind]
  exact h.bind_pure

end FailsAs
end ChapterTex
