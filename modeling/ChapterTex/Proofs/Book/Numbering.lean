import ChapterTex.Proofs.Book.FileOrder

/-!
Two numbers of a chapter: its place in the chapter order, which starts at zero and counts all files,
and the number that LaTeX prints, which starts at one and leaves out the front matter.
-/
namespace ChapterTex.Book
variable {names files : List String} {name slug : String}

def isNumbered (name : String) : Bool := isChapterFile name && !isFrontMatter name

/-- The number that LaTeX gives to the chapter of a file: how many numbered chapters there are up to
it. -/
def latexNumber (names : List String) (name : String) : Nat :=
  names.countP fun file => isNumbered file && decide (file ≤ name)

def frontMatterCount (names : List String) : Nat :=
  names.countP fun file => isChapterFile file && isFrontMatter file

/-- In sorted files, the place of a slug is told by the number of files up to its own. -/
theorem idxOf?_of_sorted (hsorted : files.Pairwise (· ≤ ·))
    (hfiles : ∀ file ∈ files, isChapterFile file)
    (hslugs : (files.filterMap chapterSlug?).Nodup) (hname : name ∈ files)
    (hslug : chapterSlug? name = some slug) :
    ∃ n, (files.filterMap chapterSlug?).idxOf? slug = some n ∧
      n + 1 = files.countP fun file => decide (file ≤ name) := by
  induction files with
  | nil => cases hname
  | cons file rest ih =>
    obtain ⟨hfirst, hrest⟩ := List.pairwise_cons.mp hsorted
    obtain ⟨hfile, hfiles⟩ := List.forall_mem_cons.mp hfiles
    obtain ⟨s, hs⟩ := Option.isSome_iff_exists.mp hfile
    rw [List.filterMap_cons_some hs] at hslugs ⊢
    obtain ⟨hnew, hslugs⟩ := List.nodup_cons.mp hslugs
    have hne : ∀ other ∈ rest, other ≠ file := by
      rintro other hother rfl
      exact hnew (List.mem_filterMap.mpr ⟨other, hother, hs⟩)
    rcases List.mem_cons.mp hname with rfl | hname
    · obtain rfl : s = slug := Option.some.inj (hs.symm.trans hslug)
      have hlater : rest.countP (fun other => decide (other ≤ name)) = 0 := by
        rw [List.countP_eq_zero]
        intro other hother hle
        exact hne other hother (le_antisymm (of_decide_eq_true hle) (hfirst other hother))
      refine ⟨0, by simp [List.idxOf?_cons], ?_⟩
      rw [List.countP_cons_of_pos (by simp), hlater]
    · obtain ⟨n, hn, hcount⟩ := ih hrest hfiles hslugs hname
      have hs' : s ≠ slug := by
        rintro rfl
        exact hnew (List.mem_filterMap.mpr ⟨name, hname, hslug⟩)
      refine ⟨n + 1, by simp [List.idxOf?_cons, hs', hn], ?_⟩
      rw [List.countP_cons_of_pos (by simpa using hfirst name hname), hcount]

/-- The number of a chapter counts the chapter files up to its own, from zero. -/
theorem indexOf?_discover (hslugs : (names.filterMap chapterSlug?).Nodup) (hname : name ∈ names)
    (hslug : chapterSlug? name = some slug) :
    ∃ n, (discover names).indexOf? slug = some n ∧
      n + 1 = names.countP fun file => isChapterFile file && decide (file ≤ name) := by
  have hfile : isChapterFile name := by simp [isChapterFile, hslug]
  have hperm :
      ((chapterFiles names).filterMap chapterSlug?).Perm (names.filterMap chapterSlug?) := by
    have hfilter : (names.filter isChapterFile).filterMap chapterSlug? =
        names.filterMap chapterSlug? := by
      rw [List.filterMap_filter]
      congr 1
      funext file
      cases h : chapterSlug? file <;> simp [isChapterFile, h]
    rw [← hfilter]
    exact (chapterFiles_perm names).filterMap chapterSlug?
  have hslugs := hperm.nodup_iff.mpr hslugs
  obtain ⟨n, hn, hcount⟩ := idxOf?_of_sorted (pairwise_chapterFiles names)
    (fun file hmem => (mem_chapterFiles.mp hmem).2) hslugs (mem_chapterFiles.mpr ⟨hname, hfile⟩)
    hslug
  refine ⟨n, ?_, ?_⟩
  · rw [Registry.indexOf?, slugs_discover, distinct_of_nodup hslugs, hn]
  · rw [hcount, (chapterFiles_perm names).countP_eq, List.countP_filter]
    simp only [Bool.and_comm]

/-- Front matter comes before the numbered chapters. -/
theorem le_of_isFrontMatter {front : String} (hfront : isChapterFile front)
    (hzero : isFrontMatter front = true) (hname : isNumbered name) : front ≤ name := by
  obtain ⟨hfile, hnumbered⟩ := Bool.and_eq_true_iff.mp hname
  obtain ⟨s, hs⟩ := Option.isSome_iff_exists.mp hfront
  obtain ⟨-, a, b, -, -, hfront⟩ := chapterSlug?_eq_some_iff.mp hs
  obtain ⟨s', hs'⟩ := Option.isSome_iff_exists.mp hfile
  obtain ⟨-, a', b', ha', hb', hname⟩ := chapterSlug?_eq_some_iff.mp hs'
  obtain ⟨rfl, rfl⟩ : '0' = a ∧ '0' = b := by simpa [isFrontMatter, hfront] using hzero
  have hdigits : '0' ≤ a' ∧ '0' ≤ b' := by
    simp only [Char.isDigit, Bool.and_eq_true, decide_eq_true_eq] at ha' hb'
    exact ⟨ha'.1, hb'.1⟩
  have hpair : '0' < a' ∨ '0' = a' ∧ '0' < b' := by
    rcases lt_or_eq_of_le hdigits.1 with ha | rfl
    · exact .inl ha
    · rcases lt_or_eq_of_le hdigits.2 with hb | rfl
      · exact .inr ⟨rfl, hb⟩
      · simp [isFrontMatter, hname] at hnumbered
  refine le_of_lt (String.lt_iff_toList_lt.mpr ?_)
  rw [hfront, hname, List.cons_lt_cons_iff, List.cons_lt_cons_iff]
  rcases hpair with ha | ⟨ha, hb⟩
  · exact .inl ha
  · exact .inr ⟨ha, .inl hb⟩

/-- The chapter files up to a numbered chapter are its numbered chapters and all the front
matter. -/
theorem countP_le_eq (hname : isNumbered name) :
    names.countP (fun file => isChapterFile file && decide (file ≤ name)) =
      latexNumber names name + frontMatterCount names := by
  unfold latexNumber frontMatterCount
  induction names with
  | nil => rfl
  | cons file rest ih =>
    simp only [List.countP_cons, ih]
    by_cases hfile : isChapterFile file
    · cases hfront : isFrontMatter file with
      | true =>
        have hle := le_of_isFrontMatter hfile hfront hname
        simp [isNumbered, hfile, hfront, hle, Nat.add_assoc]
      | false =>
        simp [isNumbered, hfile, hfront]
        omega
    · simp [isNumbered, hfile]

/-- The number of a chapter and the one that LaTeX gives it differ by the amount of front matter,
of which one file makes up for the counting from zero. -/
theorem number_eq_latexNumber_add (hslugs : (names.filterMap chapterSlug?).Nodup)
    (hname : name ∈ names) (hslug : chapterSlug? name = some slug)
    (hfront : isFrontMatter name = false) :
    ∃ n, (discover names).indexOf? slug = some n ∧
      n + 1 = latexNumber names name + frontMatterCount names := by
  have hnumbered : isNumbered name := by simp [isNumbered, isChapterFile, hslug, hfront]
  obtain ⟨n, hn, hcount⟩ := indexOf?_discover hslugs hname hslug
  exact ⟨n, hn, hcount.trans (countP_le_eq hnumbered)⟩

end ChapterTex.Book
