import Mathlib.Data.List.Nodup
import Mathlib.Data.List.TakeWhile
import ChapterTex.Book.Chapter

/-!
What the chapter order of a directory and the labels of its documents have in common: both take the
slug out of the file name, and link targets spell it the same way.
-/
namespace ChapterTex.Book

/-- The texts that can be the slug of a chapter file. -/
def IsSlug (s : String) : Prop := s ≠ "" ∧ ∀ c ∈ s.toList, Text.isAsciiWord c = true

theorem IsSlug.toList_ne_nil {s : String} (h : IsSlug s) : s.toList ≠ [] := by
  intro hs
  exact h.1 (String.toList_inj.mp (by simpa using hs))

/-- A slug in front of a character that ends it is the longest word there. -/
theorem IsSlug.takeWhile_append {s : String} (h : IsSlug s) {c : Char}
    (hc : Text.isAsciiWord c = false) (rest : List Char) :
    (s.toList ++ c :: rest).takeWhile Text.isAsciiWord = s.toList := by
  rw [List.takeWhile_append_of_pos h.2]
  simp [hc]

theorem IsSlug.dropWhile_append {s : String} (h : IsSlug s) {c : Char}
    (hc : Text.isAsciiWord c = false) (rest : List Char) :
    (s.toList ++ c :: rest).dropWhile Text.isAsciiWord = c :: rest := by
  rw [List.dropWhile_append_of_pos h.2]
  simp [hc]

/-- The names of chapter files are two digits, an underscore, a slug and `.md`. -/
theorem chapterSlug?_eq_some_iff {name slug : String} :
    chapterSlug? name = some slug ↔ IsSlug slug ∧ ∃ a b : Char,
      a.isDigit = true ∧ b.isDigit = true ∧
        name.toList = a :: b :: '_' :: (slug.toList ++ ['.', 'm', 'd']) := by
  unfold chapterSlug?
  split
  · next a b rest hname =>
    simp only [Bool.and_eq_true, beq_iff_eq, Option.ite_none_right_eq_some, Option.some.injEq,
      hname, List.cons.injEq, true_and]
    constructor
    · rintro ⟨⟨⟨⟨ha, hb⟩, hne⟩, hend⟩, rfl⟩
      have hrest := List.takeWhile_append_dropWhile (p := Text.isAsciiWord) (l := rest)
      rw [hend] at hrest
      refine ⟨⟨?_, ?_⟩, a, b, ha, hb, rfl, rfl, by simpa using hrest.symm⟩
      · intro hs
        rw [← String.toList_inj] at hs
        simp_all
      · intro c hc
        exact List.mem_takeWhile_imp (by simpa using hc)
    · rintro ⟨hs, a', b', ha, hb, rfl, rfl, rfl⟩
      have hdot : Text.isAsciiWord '.' = false := by decide
      rw [hs.takeWhile_append hdot, hs.dropWhile_append hdot]
      exact ⟨⟨⟨⟨ha, hb⟩, by simpa using hs.toList_ne_nil⟩, rfl⟩, String.ofList_toList⟩
  · next hname =>
    simp only [reduceCtorEq, false_iff]
    rintro ⟨-, a, b, -, -, h⟩
    exact hname a b _ h

/-- The chapters of a directory are the slugs of its chapter files. -/
theorem mem_slugs_discover {names : List String} {slug : String} :
    slug ∈ (discover names).slugs ↔ ∃ name ∈ names, chapterSlug? name = some slug := by
  simp only [discover, chapterFiles, Registry.slugs_ofList, mem_distinct, List.mem_filterMap,
    List.mem_mergeSort, List.mem_filter]
  constructor
  · rintro ⟨name, ⟨hname, -⟩, hslug⟩
    exact ⟨name, hname, hslug⟩
  · rintro ⟨name, hname, hslug⟩
    exact ⟨name, ⟨hname, by simp [isChapterFile, hslug]⟩, hslug⟩

/-- The label of a document is the slug of its chapter, whatever its suffixes are. -/
theorem chapterLabel_eq {name slug : String} (hslug : IsSlug slug) {a b : Char}
    (ha : a.isDigit = true) (hb : b.isDigit = true) {suffixes : List Char}
    (hname : name.toList = a :: b :: '_' :: (slug.toList ++ suffixes))
    (hsuffixes : ∀ c ∈ suffixes.head?, c = '.') :
    chapterLabel name = slug := by
  have hword : ∀ c ∈ slug.toList, (c != '.') = true := by
    intro c hc
    have hc := hslug.2 c hc
    simp only [bne_iff_ne, ne_eq]
    rintro rfl
    exact absurd hc (by decide)
  have hlabel : (slug.toList ++ suffixes).takeWhile (· != '.') = slug.toList := by
    rw [List.takeWhile_append_of_pos hword]
    cases suffixes with
    | nil => simp
    | cons c rest =>
      obtain rfl : c = '.' := hsuffixes c rfl
      simp
  have hdigits := Text.isDecimalDigit_of_isDigit ha
  have hdigits' := Text.isDecimalDigit_of_isDigit hb
  have hne : slug.toList.isEmpty = false := by simpa using hslug.toList_ne_nil
  simp only [chapterLabel, hname, hlabel, hdigits, hdigits', hne, Bool.not_false, Bool.and_self,
    ↓reduceIte, String.ofList_toList]

theorem splitTarget?_slug {s : String} (h : IsSlug s) : splitTarget? s = some (s, none) := by
  have ht : s.toList.takeWhile Text.isAsciiWord = s.toList := List.takeWhile_eq_self_iff.mpr h.2
  have hd : s.toList.dropWhile Text.isAsciiWord = [] := List.dropWhile_eq_nil_iff.mpr h.2
  have hne : s.toList.isEmpty = false := by simpa using h.toList_ne_nil
  simp [splitTarget?, ht, hd, hne]

theorem splitTarget?_anchor {s anchor : String} (h : IsSlug s) (ha : '\n' ∉ anchor.toList) :
    splitTarget? (s ++ "#" ++ anchor) = some (s, some anchor) := by
  have hhash : Text.isAsciiWord '#' = false := by decide
  have hlist : (s ++ "#" ++ anchor).toList = s.toList ++ '#' :: anchor.toList := by simp
  have ht := h.takeWhile_append hhash anchor.toList
  have hd := h.dropWhile_append hhash anchor.toList
  have hne : s.toList.isEmpty = false := by simpa using h.toList_ne_nil
  simp [splitTarget?, hlist, ht, hd, hne, ha]

/-- A target that has a slug is the slug alone, or the slug and an anchor on one line. -/
theorem splitTarget?_eq_some_iff {target slug : String} {anchor : Option String} :
    splitTarget? target = some (slug, anchor) ↔ IsSlug slug ∧
      ((anchor = none ∧ target = slug) ∨
        ∃ rest, '\n' ∉ rest.toList ∧ anchor = some rest ∧ target = slug ++ "#" ++ rest) := by
  constructor
  · intro h
    have hsplit := List.takeWhile_append_dropWhile (p := Text.isAsciiWord) (l := target.toList)
    simp only [splitTarget?, Option.ite_none_left_eq_some] at h
    obtain ⟨hne, h⟩ := h
    have hword : IsSlug (String.ofList (target.toList.takeWhile Text.isAsciiWord)) := by
      refine ⟨fun hempty => ?_, fun c hc => List.mem_takeWhile_imp (by simpa using hc)⟩
      rw [← String.toList_inj, String.toList_ofList, String.toList_empty] at hempty
      exact hne (by simp [hempty])
    cases hd : target.toList.dropWhile Text.isAsciiWord with
    | nil =>
      rw [hd] at h hsplit
      cases h
      refine ⟨hword, .inl ⟨rfl, ?_⟩⟩
      rw [← String.toList_inj, String.toList_ofList]
      simpa using hsplit.symm
    | cons c rest =>
      rw [hd] at h hsplit
      simp only [Option.ite_none_right_eq_some] at h
      obtain ⟨hc, h⟩ := h
      obtain ⟨rfl, hline⟩ : c = '#' ∧ '\n' ∉ rest := by simpa using hc
      cases h
      refine ⟨hword, .inr ⟨_, by simpa using hline, rfl, ?_⟩⟩
      rw [← String.toList_inj]
      simpa using hsplit.symm
  · rintro ⟨hslug, ⟨rfl, rfl⟩ | ⟨rest, hline, rfl, rfl⟩⟩
    · exact splitTarget?_slug hslug
    · exact splitTarget?_anchor hslug hline

/-- The number of a chapter is its place in reading order. -/
theorem Registry.indexOf?_eq_some_iff {r : Registry} {slug : String} {index : Nat} :
    r.indexOf? slug = some index ↔ r.slugs[index]? = some slug := by
  rw [Registry.indexOf?, List.idxOf?_eq_some_iff, List.getElem?_eq_some_iff]
  constructor
  · rintro ⟨hlt, heq, -⟩
    exact ⟨hlt, heq⟩
  · rintro ⟨hlt, rfl⟩
    refine ⟨hlt, rfl, fun j hj heq => ?_⟩
    exact absurd (r.nodup.getElem_inj_iff.mp heq) (Nat.ne_of_lt hj)

theorem Registry.splitTarget?_of_resolve {r : Registry} {target : String} {link : ChapterLink}
    (h : r.resolve target = some link) : splitTarget? target = some (link.slug, link.anchor) := by
  unfold resolve at h
  obtain ⟨⟨slug, anchor⟩, hsplit, h⟩ := Option.bind_eq_some_iff.mp h
  obtain ⟨index, -, h⟩ := Option.bind_eq_some_iff.mp h
  cases h
  exact hsplit

theorem Registry.indexOf?_of_resolve {r : Registry} {target : String} {link : ChapterLink}
    (h : r.resolve target = some link) : r.indexOf? link.slug = some link.index := by
  unfold resolve at h
  obtain ⟨⟨slug, anchor⟩, -, h⟩ := Option.bind_eq_some_iff.mp h
  obtain ⟨index, hindex, h⟩ := Option.bind_eq_some_iff.mp h
  cases h
  exact hindex

/-- A target whose slug is a chapter of the book resolves. -/
theorem Registry.resolve_of_mem {r : Registry} {target slug : String} {anchor : Option String}
    (hsplit : splitTarget? target = some (slug, anchor)) (hmem : slug ∈ r.slugs) :
    ∃ index, r.indexOf? slug = some index ∧
      r.resolve target = some { slug, anchor, index } := by
  obtain ⟨index, hindex⟩ := Option.isSome_iff_exists.mp (List.isSome_idxOf?.mpr hmem)
  exact ⟨index, hindex, by simp [Registry.resolve, hsplit, Registry.indexOf?, hindex]⟩

end ChapterTex.Book
