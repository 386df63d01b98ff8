import ChapterTex.Text.Control
import Mathlib.Data.List.Infix

/-!
Texts without their control sequences. A text that has none stays as it is and every other one gets
shorter. A character that stands in no control sequence cuts a text into parts that lose theirs on
their own.
-/
namespace ChapterTex.Text

def IsControl (u : List Char) : Prop :=
  ∃ parameters letter, (∀ c ∈ parameters, isParameter c = true) ∧ letter.isAlpha = true ∧
    u = '\x1b' :: '[' :: (parameters ++ [letter])

def HasControl (s : List Char) : Prop := ∃ u, IsControl u ∧ u <:+: s

/-- A character that stands in no control sequence. -/
def IsBreak (c : Char) : Prop := ∀ u, IsControl u → c ∉ u

variable {s t u : List Char} {c : Char} {n : Nat}

theorem isParameter_of_isAlpha (h : c.isAlpha = true) : isParameter c = false := by
  rw [Bool.eq_false_iff]
  intro hparameter
  simp only [isParameter, Bool.or_eq_true, beq_iff_eq] at hparameter
  rcases hparameter with (rfl | rfl) | hdigit
  · cases h
  · cases h
  · delta Char.isAlpha Char.isUpper Char.isLower at h
    delta Char.isDigit at hdigit
    simp only [Bool.or_eq_true, Bool.and_eq_true, decide_eq_true_eq, ge_iff_le,
      UInt32.le_iff_toNat_le] at h hdigit
    change 65 ≤ c.toNat ∧ c.toNat ≤ 90 ∨ 97 ≤ c.toNat ∧ c.toNat ≤ 122 at h
    change 48 ≤ c.toNat ∧ c.toNat ≤ 57 at hdigit
    omega

/-- The length that is read off a text is that of a control sequence which starts it. -/
theorem controlLength?_eq_some_iff :
    controlLength? s = some n ↔ ∃ u, IsControl u ∧ u <+: s ∧ u.length = n := by
  constructor
  · intro h
    unfold controlLength? at h
    split at h
    · next rest =>
      split at h
      · next letter after hdrop =>
        split at h
        · next halpha =>
          have hparameters : ∀ c ∈ rest.takeWhile isParameter, isParameter c = true :=
            List.all_eq_true.mp List.all_takeWhile
          have hrest : rest.takeWhile isParameter ++ [letter] ++ after = rest := by
            rw [List.append_assoc, List.singleton_append, ← hdrop, List.takeWhile_append_dropWhile]
          cases h
          refine ⟨_, ⟨_, letter, hparameters, halpha, rfl⟩, ⟨after, ?_⟩, by simp⟩
          rw [List.cons_append, List.cons_append, hrest]
        · cases h
      · cases h
    · cases h
  · rintro ⟨u, ⟨parameters, letter, hparameters, halpha, rfl⟩, ⟨after, rfl⟩, rfl⟩
    have hletter := isParameter_of_isAlpha halpha
    simp [controlLength?, List.dropWhile_append_of_pos hparameters,
      List.takeWhile_append_of_pos hparameters, hletter, halpha]

theorem hasControl_cons_iff :
    HasControl (c :: s) ↔ (∃ n, controlLength? (c :: s) = some n) ∨ HasControl s := by
  simp only [HasControl, List.infix_cons_iff, controlLength?_eq_some_iff]
  constructor
  · rintro ⟨u, hu, h | h⟩
    · exact .inl ⟨u.length, u, hu, h, rfl⟩
    · exact .inr ⟨u, hu, h⟩
  · rintro (⟨_, u, hu, h, -⟩ | ⟨u, hu, h⟩)
    · exact ⟨u, hu, .inl h⟩
    · exact ⟨u, hu, .inr h⟩

theorem length_withoutControlsFrom_le (s : List Char) (skip : Nat) :
    (withoutControlsFrom skip s).length ≤ s.length := by
  induction s generalizing skip with
  | nil => simp [withoutControlsFrom]
  | cons c rest ih =>
    cases skip with
    | succ skip => exact Nat.le_succ_of_le (ih skip)
    | zero =>
      unfold withoutControlsFrom
      split
      · exact Nat.le_succ_of_le (ih _)
      · exact Nat.succ_le_succ (ih 0)

/-- A text is written as it is exactly if it has no control sequence. -/
theorem withoutControlsFrom_eq_self_iff (s : List Char) :
    withoutControlsFrom 0 s = s ↔ ¬ HasControl s := by
  induction s with
  | nil =>
    have hnil : ¬ HasControl [] := by
      rintro ⟨u, ⟨parameters, letter, -, -, rfl⟩, h⟩
      simp at h
    simp [withoutControlsFrom, hnil]
  | cons c rest ih =>
    rw [hasControl_cons_iff, not_or, ← ih, withoutControlsFrom]
    split
    · next n hn =>
      -- What follows a control sequence is too short for the text.
      have hshort := length_withoutControlsFrom_le rest (n - 1)
      have hne : withoutControlsFrom (n - 1) rest ≠ c :: rest := by
        intro h
        rw [h, List.length_cons] at hshort
        omega
      simp [hn, hne]
    · next hn => simp [hn]

theorem withoutControls_eq_self_iff (s : String) :
    withoutControls s = s ↔ ¬ HasControl s.toList := by
  rw [← withoutControlsFrom_eq_self_iff, withoutControls, ← String.toList_inj, String.toList_ofList]

theorem isBreak_of (hescape : c ≠ '\x1b') (hbracket : c ≠ '[') (hparameter : isParameter c = false)
    (halpha : c.isAlpha = false) : IsBreak c := by
  rintro _ ⟨parameters, letter, hparameters, hletter, rfl⟩ hmem
  simp only [List.mem_cons, List.mem_append, List.not_mem_nil, or_false] at hmem
  rcases hmem with h | h | h | h
  · exact hescape h
  · exact hbracket h
  · exact absurd (hparameters c h) (by simp [hparameter])
  · exact absurd hletter (by simp [← h, halpha])

theorem isBreak_space : IsBreak ' ' := isBreak_of (by decide) (by decide) (by decide) (by decide)

theorem isBreak_newline : IsBreak '\n' := isBreak_of (by decide) (by decide) (by decide) (by decide)

theorem prefix_of_prefix_append_cons (hu : c ∉ u) (h : u <+: s ++ c :: t) : u <+: s := by
  have hs : s ++ [c] <+: s ++ c :: t := ⟨t, by simp⟩
  rcases List.prefix_or_prefix_of_prefix h hs with h | h
  · rcases List.prefix_concat_iff.mp h with rfl | h
    · simp at hu
    · exact h
  · exact absurd (h.subset (by simp)) hu

/-- Nothing from a break on belongs to a control sequence in front of it. -/
theorem controlLength?_append_cons (hc : IsBreak c) (s t : List Char) :
    controlLength? (s ++ c :: t) = controlLength? s := by
  refine Option.ext fun n => ?_
  simp only [controlLength?_eq_some_iff]
  constructor
  · rintro ⟨u, hu, h, hn⟩
    exact ⟨u, hu, prefix_of_prefix_append_cons (hc u hu) h, hn⟩
  · rintro ⟨u, hu, h, hn⟩
    exact ⟨u, hu, h.trans (List.prefix_append _ _), hn⟩

theorem withoutControlsFrom_append_cons (hc : IsBreak c) (s t : List Char) {skip : Nat}
    (hskip : skip ≤ s.length) :
    withoutControlsFrom skip (s ++ c :: t) =
      withoutControlsFrom skip s ++ c :: withoutControlsFrom 0 t := by
  induction s generalizing skip with
  | nil =>
    have hnone : controlLength? (c :: t) = none := controlLength?_append_cons hc [] t
    obtain rfl : skip = 0 := Nat.le_zero.mp hskip
    simp [withoutControlsFrom, hnone]
  | cons a rest ih =>
    cases skip with
    | succ skip => exact ih (Nat.le_of_succ_le_succ hskip)
    | zero =>
      have hsame := controlLength?_append_cons hc (a :: rest) t
      rw [List.cons_append] at hsame ⊢
      rw [withoutControlsFrom, withoutControlsFrom, hsame]
      cases hn : controlLength? (a :: rest) with
      | none => exact congrArg (a :: ·) (ih (Nat.zero_le _))
      | some n =>
        -- The sequence ends in front of the break, so what is skipped does not reach it.
        obtain ⟨u, -, hu, rfl⟩ := controlLength?_eq_some_iff.mp hn
        have hlength := hu.length_le
        rw [List.length_cons] at hlength
        exact ih (by omega)

theorem withoutControlsFrom_cons (hc : IsBreak c) (t : List Char) :
    withoutControlsFrom 0 (c :: t) = c :: withoutControlsFrom 0 t := by
  simpa [withoutControlsFrom] using withoutControlsFrom_append_cons hc [] t (Nat.zero_le 0)

/-- A text can be cut behind a break. -/
theorem withoutControls_append_left {s : String} (hs : s.toList.getLast? = some c) (hc : IsBreak c)
    (t : String) : withoutControls (s ++ t) = withoutControls s ++ withoutControls t := by
  obtain ⟨front, hfront⟩ := List.getLast?_eq_some_iff.mp hs
  have hcut := fun rest => withoutControlsFrom_append_cons hc front rest (Nat.zero_le _)
  rw [← String.toList_inj]
  simp [withoutControls, hfront, hcut, withoutControlsFrom]

/-- Words in front of a text stay as they are. -/
theorem withoutControls_opening {s : String} (hs : s.toList.getLast? = some ' ')
    (hwords : withoutControls s = s) (t : String) :
    withoutControls (s ++ t) = s ++ withoutControls t := by
  rw [withoutControls_append_left hs isBreak_space, hwords]

/-- A text can be cut in front of a break. -/
theorem withoutControls_append_right {t : String} (ht : t.toList.head? = some c) (hc : IsBreak c)
    (s : String) : withoutControls (s ++ t) = withoutControls s ++ withoutControls t := by
  obtain ⟨rest, hrest⟩ := List.head?_eq_some_iff.mp ht
  have hcut := withoutControlsFrom_append_cons hc s.toList rest (Nat.zero_le _)
  rw [← String.toList_inj]
  simp [withoutControls, hrest, hcut, withoutControlsFrom_cons hc]

end ChapterTex.Text
