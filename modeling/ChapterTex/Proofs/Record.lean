import ChapterTex.Record

/-!
Records with distinct names: their order does not matter to look-ups, and writing them out entry by
entry gives them back.
-/
namespace ChapterTex.Record
variable {α : Type _} {r s : Record α} {name : String} {value : α}

theorem mem_of_get? (h : get? r name = some value) : (name, value) ∈ r := by
  obtain ⟨before, after, rfl, -⟩ := List.lookup_eq_some_iff.mp h
  exact List.mem_append_right before List.mem_cons_self

theorem get?_eq_some_iff_mem (h : (r.map Prod.fst).Nodup) :
    get? r name = some value ↔ (name, value) ∈ r := by
  induction r with
  | nil => simp
  | cons entry rest ih =>
    obtain ⟨n, v⟩ := entry
    rw [List.map_cons, List.nodup_cons] at h
    obtain ⟨hnew, hrest⟩ := h
    rw [get?_cons, List.mem_cons]
    by_cases hn : name = n
    · subst hn
      have hnot : (name, value) ∉ rest := by
        intro hmem
        exact hnew (List.mem_map.mpr ⟨_, hmem, rfl⟩)
      simp [hnot, eq_comm]
    · simp [hn, ih hrest]

theorem get?_of_perm (hperm : r.Perm s) (h : (s.map Prod.fst).Nodup) (name : String) :
    get? r name = get? s name := by
  have hr : (r.map Prod.fst).Nodup := (hperm.map Prod.fst).nodup_iff.mpr h
  apply Option.ext
  intro value
  rw [get?_eq_some_iff_mem hr, get?_eq_some_iff_mem h, hperm.mem_iff]

theorem get?_filter_ne (r : Record α) (name query : String) :
    get? (r.filter fun entry => entry.1 != name) query =
      if query == name then none else get? r query := by
  induction r with
  | nil => simp
  | cons entry rest ih =>
    obtain ⟨n, v⟩ := entry
    by_cases hn : n = name
    · subst hn
      by_cases hq : query = n <;> simp_all [get?_cons]
    · by_cases hq : query = n
      · subst hq
        simp [get?_cons, hn]
      · simp [get?_cons, hn, hq, ih]

theorem put_of_not_mem (h : name ∉ r.map Prod.fst) : put name value r = r ++ [(name, value)] := by
  induction r with
  | nil => rfl
  | cons entry rest ih =>
    obtain ⟨n, v⟩ := entry
    rw [List.map_cons, List.mem_cons, not_or] at h
    obtain ⟨hne, hrest⟩ := h
    have hbeq : (n == name) = false := by simpa using Ne.symm hne
    simp only [put, hbeq, Bool.false_eq_true, if_false, ih hrest, List.cons_append]

theorem foldl_put_eq_append (h : ((r ++ s).map Prod.fst).Nodup) :
    s.foldl (fun r entry => put entry.1 entry.2 r) r = r ++ s := by
  induction s generalizing r with
  | nil => simp
  | cons entry rest ih =>
    have hsplit : r ++ entry :: rest = (r ++ [entry]) ++ rest := by simp
    have hnew : entry.1 ∉ r.map Prod.fst := by
      rw [List.map_append, List.map_cons, List.nodup_append] at h
      intro hmem
      exact h.2.2 _ hmem _ List.mem_cons_self rfl
    rw [List.foldl_cons, put_of_not_mem hnew, hsplit]
    rw [hsplit] at h
    exact ih h

/-- Entries with distinct names are the record of themselves. -/
theorem ofList_of_nodup (h : (r.map Prod.fst).Nodup) : ofList r = r :=
  foldl_put_eq_append (r := []) h

end ChapterTex.Record
