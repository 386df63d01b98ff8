import ChapterTex.Text.Word

/-!
The chapter order of a book, and the resolution of link targets to chapters. A target is a slug,
optionally with an anchor behind `#`; it resolves if the slug is a chapter of the book.
-/
namespace ChapterTex.Book

/-- Keeps the first occurrence of every text. -/
def distinct : List String → List String
  | [] => []
  | s :: rest => s :: (distinct rest).filter (· != s)

theorem mem_distinct {s : String} {slugs : List String} : s ∈ distinct slugs ↔ s ∈ slugs := by
  induction slugs with
  | nil => rfl
  | cons t rest ih =>
    by_cases h : s = t
    · simp [distinct, h]
    · simp [distinct, h, ih]

theorem nodup_distinct (slugs : List String) : (distinct slugs).Nodup := by
  induction slugs with
  | nil => exact List.nodup_nil
  | cons t rest ih => exact List.nodup_cons.mpr ⟨by simp, List.Pairwise.filter _ ih⟩

/-- Relates distinct texts in their order: the first one to every other, then these among
themselves. -/
theorem pairwise_distinct_cons {R : String → String → Prop} {s : String} {slugs : List String}
    (hfirst : ∀ t ∈ slugs, t ≠ s → R s t)
    (hrest : (distinct slugs).Pairwise fun t u => t ≠ s → u ≠ s → R t u) :
    (distinct (s :: slugs)).Pairwise R := by
  have hother {t : String} (ht : t ∈ (distinct slugs).filter (· != s)) : t ∈ slugs ∧ t ≠ s := by
    obtain ⟨hmem, hne⟩ := List.mem_filter.mp ht
    exact ⟨mem_distinct.mp hmem, by simpa using hne⟩
  rw [distinct, List.pairwise_cons]
  constructor
  · intro t ht
    exact hfirst t (hother ht).1 (hother ht).2
  · refine (hrest.filter (· != s)).imp_of_mem ?_
    intro t u ht hu htu
    exact htu (hother ht).2 (hother hu).2

/-- The slugs of a book's chapters in reading order. -/
structure Registry where
  slugs : List String
  nodup : slugs.Nodup

namespace Registry

/-- The registry of a sequence of slugs, of which repeated ones count once, at their first place. -/
def ofList (slugs : List String) : Registry := ⟨distinct slugs, nodup_distinct slugs⟩

@[simp] theorem slugs_ofList (slugs : List String) : (ofList slugs).slugs = distinct slugs := rfl

def contains (r : Registry) (slug : String) : Bool := r.slugs.contains slug

def size (r : Registry) : Nat := r.slugs.length

/-- The chapter number of a slug, counted from zero. -/
def indexOf? (r : Registry) (slug : String) : Option Nat := r.slugs.idxOf? slug

end Registry

/-- A link target that is a chapter of the book. -/
structure ChapterLink where
  slug : String
  anchor : Option String
  index : Nat
deriving Repr, DecidableEq

namespace ChapterLink

/-- The label that the link points at. An empty anchor is none. -/
def label (link : ChapterLink) : String :=
  match link.anchor with
  | none => link.slug
  | some anchor => if anchor == "" then link.slug else link.slug ++ "." ++ anchor

end ChapterLink

/-- The slug and the anchor of a link target: a word, alone or before `#` and the rest of one
line. -/
def splitTarget? (target : String) : Option (String × Option String) :=
  let slug := target.toList.takeWhile Text.isAsciiWord
  if slug.isEmpty then none
  else
    match target.toList.dropWhile Text.isAsciiWord with
    | [] => some (String.ofList slug, none)
    | c :: anchor =>
      if c == '#' && !anchor.contains '\n' then
        some (String.ofList slug, some (String.ofList anchor))
      else none

/-- The chapter that a link target points at. -/
def Registry.resolve (r : Registry) (target : String) : Option ChapterLink := do
  let (slug, anchor) ← splitTarget? target
  let index ← r.indexOf? slug
  return { slug, anchor, index }

end ChapterTex.Book
