import Mathlib.Data.String.Basic
import ChapterTex.Proofs.Book.Discovery

/-!
The chapter files of a directory in the order of their names. The chapter order of the book lists
their slugs, so a file behind all others leaves the numbers of the chapters as they are.
-/
namespace ChapterTex.Book
variable {names names' : List String} {name slug : String}

theorem slugs_discover (names : List String) :
    (discover names).slugs = distinct ((chapterFiles names).filterMap chapterSlug?) := rfl

theorem chapterFiles_perm (names : List String) :
    (chapterFiles names).Perm (names.filter isChapterFile) :=
  List.mergeSort_perm _ _

theorem mem_chapterFiles : name ∈ chapterFiles names ↔ name ∈ names ∧ isChapterFile name := by
  rw [(chapterFiles_perm names).mem_iff, List.mem_filter]

theorem pairwise_chapterFiles (names : List String) : (chapterFiles names).Pairwise (· ≤ ·) := by
  have hsorted : (chapterFiles names).Pairwise fun a b => decide (a ≤ b) = true := by
    apply List.pairwise_mergeSort
    · intro a b c hab hbc
      simp only [decide_eq_true_eq] at hab hbc ⊢
      exact le_trans hab hbc
    · intro a b
      simpa using le_total a b
  simpa only [decide_eq_true_eq] using hsorted

/-- A sorted list of the chapter files is the list in their order. -/
theorem chapterFiles_eq {files : List String} (hsorted : files.Pairwise (· ≤ ·))
    (hperm : files.Perm (names.filter isChapterFile)) :
    chapterFiles names = files :=
  List.Perm.eq_of_pairwise (fun _ _ _ _ => le_antisymm) (pairwise_chapterFiles names) hsorted
    ((chapterFiles_perm names).trans hperm.symm)

/-- A chapter file behind all others is the last one. -/
theorem chapterFiles_of_later (hperm : names'.Perm (name :: names))
    (hfile : isChapterFile name)
    (hlater : ∀ other ∈ names, isChapterFile other → other < name) :
    chapterFiles names' = chapterFiles names ++ [name] := by
  apply chapterFiles_eq
  · rw [List.pairwise_append]
    refine ⟨pairwise_chapterFiles names, List.pairwise_singleton _ _, ?_⟩
    intro other hother last hlast
    rw [List.mem_singleton.mp hlast]
    obtain ⟨hmem, hslug⟩ := mem_chapterFiles.mp hother
    exact le_of_lt (hlater other hmem hslug)
  · have hfilter := hperm.filter isChapterFile
    rw [List.filter_cons_of_pos hfile] at hfilter
    have hfiles := (chapterFiles_perm names).cons name
    exact ((List.perm_append_singleton name _).trans hfiles).trans hfilter.symm

/-- A chapter file more is a chapter more. -/
theorem mem_slugs_discover_of_perm {file : String} (hperm : names'.Perm (name :: names))
    (hfile : chapterSlug? name = some file) :
    slug ∈ (discover names').slugs ↔ slug = file ∨ slug ∈ (discover names).slugs := by
  simp only [mem_slugs_discover, hperm.mem_iff, List.mem_cons, exists_eq_or_imp, hfile,
    Option.some.injEq, @eq_comm _ slug file]

/-! Repeated slugs count once, at their first place. -/

theorem distinct_of_nodup {slugs : List String} (h : slugs.Nodup) : distinct slugs = slugs := by
  induction slugs with
  | nil => rfl
  | cons s rest ih =>
    obtain ⟨hs, hrest⟩ := List.nodup_cons.mp h
    have hfilter : rest.filter (· != s) = rest := by
      rw [List.filter_eq_self]
      intro t ht
      simp only [bne_iff_ne, ne_eq]
      rintro rfl
      exact hs ht
    rw [distinct, ih hrest, hfilter]

theorem distinct_concat (slugs : List String) (s : String) :
    distinct (slugs ++ [s]) = if s ∈ slugs then distinct slugs else distinct slugs ++ [s] := by
  induction slugs with
  | nil => rfl
  | cons t rest ih =>
    rw [List.cons_append, distinct, ih]
    by_cases hst : s = t
    · subst hst
      by_cases hrest : s ∈ rest <;> simp [distinct, hrest]
    · by_cases hrest : s ∈ rest <;> simp [distinct, hrest, hst]

/-- A chapter file behind all others changes no number of another chapter. -/
theorem indexOf?_discover_of_later (hperm : names'.Perm (name :: names))
    (hfile : isChapterFile name)
    (hlater : ∀ other ∈ names, isChapterFile other → other < name)
    (hslug : slug ∈ (discover names).slugs) :
    (discover names').indexOf? slug = (discover names).indexOf? slug := by
  obtain ⟨last, hlast⟩ := Option.isSome_iff_exists.mp hfile
  have hslugs : (discover names').slugs = (discover names).slugs ∨
      (discover names').slugs = (discover names).slugs ++ [last] := by
    rw [slugs_discover names', chapterFiles_of_later hperm hfile hlater, List.filterMap_append,
      List.filterMap_cons_some hlast, List.filterMap_nil, distinct_concat, ← slugs_discover]
    split
    · exact .inl rfl
    · exact .inr rfl
  rcases hslugs with heq | heq
  · rw [Registry.indexOf?, heq, Registry.indexOf?]
  · obtain ⟨index, hindex⟩ := Option.isSome_iff_exists.mp (List.isSome_idxOf?.mpr hslug)
    rw [Registry.indexOf?, Registry.indexOf?, heq, hindex, List.idxOf?, List.findIdx?_append]
    rw [List.idxOf?] at hindex
    rw [hindex, Option.some_or]

end ChapterTex.Book
