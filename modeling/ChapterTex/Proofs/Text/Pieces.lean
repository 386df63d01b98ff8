import ChapterTex.Text.Pieces

/-!
Pieces of a text. What is united from pieces without the separator splits into them again, and both
operations go part by part over a text that a separator cuts in two.
-/
namespace ChapterTex.Text
variable {separator : Char} {s : List Char} {ws vs : List (List Char)}

theorem pieces_eq_splitOn (separator : Char) (s : List Char) :
    pieces separator s = s.splitOn separator := by
  induction s with
  | nil => rfl
  | cons c rest ih =>
    rw [pieces, List.splitOn_cons_eq_if_modifyHead, ih]
    split
    · rfl
    · cases hsplit : rest.splitOn separator with
      | nil => exact absurd hsplit (List.splitOn_ne_nil separator rest)
      | cons w ws => rfl

theorem not_mem_of_mem_splitOn {c : Char} {part : List Char} (h : part ∈ s.splitOn c) :
    c ∉ part := by
  induction s generalizing part with
  | nil =>
    obtain rfl : part = [] := by simpa using h
    exact List.not_mem_nil
  | cons d s ih =>
    rw [List.splitOn_cons_eq_if_modifyHead] at h
    by_cases hd : d == c
    · rw [if_pos hd] at h
      rcases List.mem_cons.mp h with rfl | h
      · exact List.not_mem_nil
      · exact ih h
    · rw [if_neg hd] at h
      cases hsplit : s.splitOn c with
      | nil => exact absurd hsplit (List.splitOn_ne_nil c s)
      | cons head parts =>
        rw [hsplit] at h ih
        rcases List.mem_cons.mp h with rfl | h
        · have hne : c ≠ d := fun heq => hd (beq_iff_eq.mpr heq.symm)
          exact List.not_mem_cons_of_ne_of_not_mem hne (ih List.mem_cons_self)
        · exact ih (List.mem_cons_of_mem head h)

theorem not_mem_of_mem_pieces {w : List Char} (h : w ∈ pieces separator s) : separator ∉ w :=
  not_mem_of_mem_splitOn (pieces_eq_splitOn separator s ▸ h)

theorem pieces_append_cons (separator : Char) (s t : List Char) :
    pieces separator (s ++ separator :: t) = pieces separator s ++ pieces separator t := by
  simp only [pieces_eq_splitOn, List.splitOn_append_cons_self]

theorem pieces_unite (hne : ws ≠ []) (hws : ∀ w ∈ ws, separator ∉ w) :
    pieces separator (unite separator ws) = ws := by
  rw [pieces_eq_splitOn, unite, List.splitOn_intercalate separator hws hne]

theorem unite_append (hws : ws ≠ []) (hvs : vs ≠ []) :
    unite separator (ws ++ vs) = unite separator ws ++ separator :: unite separator vs := by
  unfold unite
  induction ws with
  | nil => exact absurd rfl hws
  | cons w ws ih =>
    cases ws with
    | nil =>
      rw [List.cons_append, List.nil_append, List.intercalate_cons_of_ne_nil hvs]
      simp
    | cons w' ws =>
      have hrest : w' :: ws ≠ [] := List.cons_ne_nil w' ws
      rw [List.cons_append, List.intercalate_cons_of_ne_nil (by simp), ih hrest,
        List.intercalate_cons_of_ne_nil hrest]
      simp

end ChapterTex.Text
