import Mathlib.Data.Finset.Max
import ChapterTex.Proofs.Book.Listing

/-!
The reading order of a directory. A chapter stands where the first of its files stands, so the order
of any two chapters is the order of their least file names, whatever the listing looks like.
-/
namespace ChapterTex.Book
variable {names files : List String} {name file slug : String}

/-- Whether a file has the name of a chapter: two digits, an underscore, its slug and `.md`. -/
def NamesChapter (name slug : String) : Prop :=
  IsSlug slug ∧ ∃ a b : Char, a.isDigit = true ∧ b.isDigit = true ∧
    name.toList = a :: b :: '_' :: (slug.toList ++ ['.', 'm', 'd'])

theorem namesChapter_iff : NamesChapter name slug ↔ chapterSlug? name = some slug :=
  chapterSlug?_eq_some_iff.symm

def filesOf (names : List String) (slug : String) : Set String :=
  {name | name ∈ names ∧ NamesChapter name slug}

theorem mem_filesOf : name ∈ filesOf names slug ↔ name ∈ names ∧ chapterSlug? name = some slug :=
  and_congr_right fun _ => namesChapter_iff

theorem filesOf_chapterFiles : filesOf (chapterFiles names) slug = filesOf names slug := by
  ext name
  rw [mem_filesOf, mem_filesOf, mem_chapterFiles, and_assoc]
  refine and_congr_right fun _ => and_iff_right_of_imp fun hslug => ?_
  simp [isChapterFile, hslug]

/-- A file of another chapter, or of none, is not among the files of a chapter. -/
theorem filesOf_cons_of_ne (h : chapterSlug? file ≠ some slug) :
    filesOf (file :: files) slug = filesOf files slug := by
  ext name
  rw [mem_filesOf, mem_filesOf, List.mem_cons]
  constructor
  · rintro ⟨rfl | hname, hslug⟩
    · exact absurd hslug h
    · exact ⟨hname, hslug⟩
  · rintro ⟨hname, hslug⟩
    exact ⟨.inr hname, hslug⟩

theorem exists_isLeast_filesOf (h : slug ∈ (discover names).slugs) :
    ∃ name, IsLeast (filesOf names slug) name := by
  obtain ⟨name, hname, hslug⟩ := mem_slugs_discover.mp h
  let files := names.toFinset.filter fun name => chapterSlug? name = some slug
  have hmem : name ∈ files := by simp [files, hname, hslug]
  have hfiles : filesOf names slug = files := by
    ext name
    simp [files, mem_filesOf]
  rw [hfiles]
  exact ⟨_, files.isLeast_min' ⟨name, hmem⟩⟩

/-- In sorted files, slugs come up in the order of the least files that have them. -/
theorem pairwise_least_files (hsorted : files.Pairwise (· ≤ ·)) :
    (distinct (files.filterMap chapterSlug?)).Pairwise fun s t =>
      ∀ m n, IsLeast (filesOf files s) m → IsLeast (filesOf files t) n → m < n := by
  induction files with
  | nil => exact List.Pairwise.nil
  | cons file rest ih =>
    obtain ⟨hfirst, hrest⟩ := List.pairwise_cons.mp hsorted
    cases hfile : chapterSlug? file with
    | none =>
      rw [List.filterMap_cons_none hfile]
      have hsame (slug : String) : filesOf (file :: rest) slug = filesOf rest slug :=
        filesOf_cons_of_ne (by simp [hfile])
      simpa only [hsame] using ih hrest
    | some u =>
      rw [List.filterMap_cons_some hfile]
      refine pairwise_distinct_cons ?_ ((ih hrest).imp ?_)
      · -- The first file is one of `u`, so it is the least of them, and no file of another slug.
        intro t _ hne m n hm hn
        obtain ⟨hmem, hslug⟩ := mem_filesOf.mp hn.1
        have hle : m ≤ file := hm.2 (mem_filesOf.mpr ⟨List.mem_cons_self, hfile⟩)
        have hle' : file ≤ n := by
          rcases List.mem_cons.mp hmem with rfl | hmem
          · exact le_refl _
          · exact hfirst n hmem
        refine lt_of_le_of_ne (hle.trans hle') ?_
        rintro rfl
        have hslug' := (mem_filesOf.mp hm.1).2
        rw [hslug, Option.some.injEq] at hslug'
        exact hne hslug'
      · intro s t hlt hs ht
        rwa [filesOf_cons_of_ne (by simpa [hfile] using hs.symm),
          filesOf_cons_of_ne (by simpa [hfile] using ht.symm)]

/-- Two chapters of a directory are in the order of their least files. -/
theorem lt_iff_of_isLeast_filesOf {slug' name' : String} {i j : Nat}
    (hi : (discover names).slugs[i]? = some slug) (hj : (discover names).slugs[j]? = some slug')
    (hname : IsLeast (filesOf names slug) name) (hname' : IsLeast (filesOf names slug') name') :
    i < j ↔ name < name' := by
  have hpairwise := pairwise_least_files (pairwise_chapterFiles names)
  simp only [filesOf_chapterFiles, ← slugs_discover] at hpairwise
  rw [List.pairwise_iff_getElem] at hpairwise
  obtain ⟨hilt, rfl⟩ := List.getElem?_eq_some_iff.mp hi
  obtain ⟨hjlt, rfl⟩ := List.getElem?_eq_some_iff.mp hj
  constructor
  · intro hlt
    exact hpairwise i j hilt hjlt hlt name name' hname hname'
  · intro hlt
    by_contra hge
    rcases Nat.lt_or_eq_of_le (Nat.not_lt.mp hge) with hgt | rfl
    · exact lt_asymm hlt (hpairwise j i hjlt hilt hgt name' name hname' hname)
    · exact hlt.ne (hname.unique hname')

/-- A slug of the book resolves to itself, with its place. -/
theorem Registry.resolve_slug {r : Registry} {index : Nat} (hslug : IsSlug slug)
    (h : r.slugs[index]? = some slug) :
    r.resolve slug = some { slug, anchor := none, index } := by
  have hindex := Registry.indexOf?_eq_some_iff.mpr h
  simp [resolve, splitTarget?_slug hslug, hindex]

/-- The chapters of a directory do not depend on its listing. Listings of the same names give the
same chapters, each once, which are those that a file is named after; a chapter is before another if
its least file is; and each resolves as a link target, to itself and its place. -/
theorem discovery_is_canonical (names : List String) :
    (∀ names', (∀ name, name ∈ names' ↔ name ∈ names) → discover names' = discover names) ∧
      (discover names).slugs.Nodup ∧
      (∀ slug, (discover names).contains slug = true ↔ ∃ name ∈ names, NamesChapter name slug) ∧
      (∀ slug slug' (i j : Nat), (discover names).slugs[i]? = some slug →
        (discover names).slugs[j]? = some slug' →
          ∃ name name', IsLeast (filesOf names slug) name ∧ IsLeast (filesOf names slug') name' ∧
            (i < j ↔ name < name')) ∧
      ∀ slug (i : Nat), (discover names).slugs[i]? = some slug →
        (discover names).resolve slug = some { slug, anchor := none, index := i } := by
  have hmem (slug : String) :
      slug ∈ (discover names).slugs ↔ ∃ name ∈ names, NamesChapter name slug := by
    simp only [mem_slugs_discover, namesChapter_iff]
  refine ⟨fun names' h => discover_congr fun name _ => h name, (discover names).nodup, ?_, ?_, ?_⟩
  · intro slug
    rw [Registry.contains, List.contains_iff_mem, hmem]
  · intro slug slug' i j hi hj
    obtain ⟨name, hname⟩ := exists_isLeast_filesOf (List.mem_of_getElem? hi)
    obtain ⟨name', hname'⟩ := exists_isLeast_filesOf (List.mem_of_getElem? hj)
    exact ⟨name, name', hname, hname', lt_iff_of_isLeast_filesOf hi hj hname hname'⟩
  · intro slug i hi
    obtain ⟨_, _, hslug, -⟩ := (hmem slug).mp (List.mem_of_getElem? hi)
    exact Registry.resolve_slug hslug hi

/-- A chapter of two files stands at the first, however they are listed. -/
theorem discovery_is_canonical_two_files :
    discover ["02_basics.md", "01_intro.md", "00_basics.md", "01_intro.md"] =
        discover ["00_basics.md", "01_intro.md", "02_basics.md"] ∧
      (∃ name name',
        IsLeast (filesOf ["00_basics.md", "01_intro.md", "02_basics.md"] "basics") name ∧
        IsLeast (filesOf ["00_basics.md", "01_intro.md", "02_basics.md"] "intro") name' ∧
          name < name') ∧
      (discover ["00_basics.md", "01_intro.md", "02_basics.md"]).resolve "intro" =
        some { slug := "intro", anchor := none, index := 1 } := by
  have hslugs : (discover ["00_basics.md", "01_intro.md", "02_basics.md"]).slugs =
      ["basics", "intro"] := by
    rw [slugs_discover, chapterFiles_eq (by decide) (List.Perm.refl _)]
    rfl
  obtain ⟨hnames, -, -, horder, hresolve⟩ :=
    discovery_is_canonical ["00_basics.md", "01_intro.md", "02_basics.md"]
  obtain ⟨name, name', hname, hname', hlt⟩ :=
    horder "basics" "intro" 0 1 (by rw [hslugs]; rfl) (by rw [hslugs]; rfl)
  refine ⟨hnames _ fun name => ?_, ⟨name, name', hname, hname', hlt.mp (by decide)⟩, ?_⟩
  · simp only [List.mem_cons, List.not_mem_nil, or_false]
    tauto
  · exact hresolve "intro" 1 (by rw [hslugs]; rfl)

end ChapterTex.Book
