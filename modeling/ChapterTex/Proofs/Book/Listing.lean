import Mathlib.Data.List.Perm.Basic
import ChapterTex.Proofs.Book.FileOrder

/-!
Listings of a directory. The chapter order is told by the set of chapter files in a listing; the
order of the listing, repeated names and names of other files play no part.
-/
namespace ChapterTex.Book
variable {names names' : List String}

theorem distinct_filter (p : String → Bool) (slugs : List String) :
    distinct (slugs.filter p) = (distinct slugs).filter p := by
  induction slugs with
  | nil => rfl
  | cons s rest ih =>
    by_cases hs : p s = true
    · rw [List.filter_cons_of_pos hs, distinct, distinct, List.filter_cons_of_pos hs, ih,
        List.filter_filter, List.filter_filter]
      simp only [Bool.and_comm]
    · have hother : ∀ t ∈ distinct rest, (p t && (t != s)) = p t := by
        intro t _
        by_cases hts : t = s
        · simp [hts, hs]
        · simp [hts]
      rw [List.filter_cons_of_neg hs, distinct, List.filter_cons_of_neg hs, ih, List.filter_filter]
      exact (List.filter_congr hother).symm

/-- A text that occurs again adds nothing to what is made of the texts. -/
theorem distinct_filterMap_distinct (f : String → Option String) (l : List String) :
    distinct ((distinct l).filterMap f) = distinct (l.filterMap f) := by
  induction l with
  | nil => rfl
  | cons s rest ih =>
    rw [distinct]
    cases hs : f s with
    | none =>
      have hrest : ((distinct rest).filter (· != s)).filterMap f = (distinct rest).filterMap f := by
        rw [List.filterMap_filter]
        refine List.filterMap_congr fun t _ => ?_
        by_cases hts : t = s
        · simp [hts, hs]
        · simp [hts]
      rw [List.filterMap_cons_none hs, List.filterMap_cons_none hs, hrest, ih]
    | some slug =>
      -- What is left out with `s` gives the slug of `s`, which is left out anyway.
      have hrest : (((distinct rest).filter (· != s)).filterMap f).filter (· != slug) =
          ((distinct rest).filterMap f).filter (· != slug) := by
        rw [List.filter_filterMap, List.filter_filterMap, List.filterMap_filter]
        refine List.filterMap_congr fun t _ => ?_
        by_cases hts : t = s
        · simp [hts, hs, Option.filter]
        · simp [hts]
      have hdistinct := congrArg distinct hrest
      rw [distinct_filter, distinct_filter, ih] at hdistinct
      rw [List.filterMap_cons_some hs, List.filterMap_cons_some hs, distinct, distinct, hdistinct]

theorem distinct_sublist (l : List String) : (distinct l).Sublist l := by
  induction l with
  | nil => exact List.Sublist.slnil
  | cons s rest ih => exact (List.filter_sublist.trans ih).cons_cons s

/-- Sorted texts are the same up to repetition if they are the same as a set. -/
theorem distinct_eq_of_pairwise {l l' : List String} (h : l.Pairwise (· ≤ ·))
    (h' : l'.Pairwise (· ≤ ·)) (hmem : ∀ s, s ∈ l ↔ s ∈ l') : distinct l = distinct l' := by
  have hperm : (distinct l).Perm (distinct l') := by
    rw [List.perm_ext_iff_of_nodup (nodup_distinct l) (nodup_distinct l')]
    intro s
    rw [mem_distinct, mem_distinct, hmem]
  exact hperm.eq_of_pairwise (fun _ _ _ _ => le_antisymm) (h.sublist (distinct_sublist l))
    (h'.sublist (distinct_sublist l'))

theorem Registry.eq_of_slugs {r r' : Registry} (h : r.slugs = r'.slugs) : r = r' := by
  cases r
  cases r'
  cases h
  rfl

/-- Listings with the same chapter files give the same chapter order. -/
theorem discover_congr (h : ∀ name, isChapterFile name = true → (name ∈ names ↔ name ∈ names')) :
    discover names = discover names' := by
  have hfiles : distinct (chapterFiles names) = distinct (chapterFiles names') := by
    refine distinct_eq_of_pairwise (pairwise_chapterFiles names) (pairwise_chapterFiles names') ?_
    intro name
    rw [mem_chapterFiles, mem_chapterFiles]
    exact and_congr_left (h name)
  apply Registry.eq_of_slugs
  rw [slugs_discover, slugs_discover, ← distinct_filterMap_distinct, hfiles,
    distinct_filterMap_distinct]

end ChapterTex.Book
