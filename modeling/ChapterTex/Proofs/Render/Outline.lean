import ChapterTex.Proofs.Book.Discovery
import ChapterTex.Render.Basic

/-!
Texts with places for chapter numbers. Filled with the numbers of a book, such a text is a row of
segments with a number between any two of them.
-/
namespace ChapterTex
open Book (Registry)

def Book.Registry.number (book : Registry) (slug : String) : Nat := (book.indexOf? slug).getD 0

theorem Book.Registry.indexOf?_eq_number {book : Registry} {slug : String} (h : slug ∈ book.slugs) :
    book.indexOf? slug = some (book.number slug) := by
  obtain ⟨index, hindex⟩ := Option.isSome_iff_exists.mp (List.isSome_idxOf?.mpr h)
  rw [Registry.number, Registry.indexOf?, hindex, Option.getD_some]

theorem Latex.escapeChars_of_not_reserved {s : List Char} (h : ∀ c ∈ s, isReserved c = false) :
    escapeChars s = s := by
  induction s with
  | nil => rfl
  | cons c rest ih =>
    obtain ⟨hc, hrest⟩ := List.forall_mem_cons.mp h
    have hcons : escapeChars (c :: rest) = escapeChar c ++ escapeChars rest := by
      simp [escapeChars]
    rw [hcons, ih hrest, escapeChar, hc]
    rfl

theorem Latex.escapeChars_toString (n : Nat) :
    escapeChars (toString n).toList = (toString n).toList := by
  apply escapeChars_of_not_reserved
  intro c hc
  have hdigits : (toString n).toList = Nat.toDigits 10 n := Nat.toList_repr
  rw [hdigits] at hc
  have hdigit := Nat.isDigit_of_mem_toDigits (by decide) (by decide) hc
  have hnone : ∀ c ∈ reserved, c.isDigit = false := by simp [reserved, Char.isDigit]
  rw [isReserved, List.contains_eq_mem, decide_eq_false_iff_not]
  intro hreserved
  rw [hnone c hreserved] at hdigit
  cases hdigit

/-- A part of an outline: a text, or the place of a chapter number. -/
inductive OutlinePart where
  | literal (s : String)
  | number (slug : String)

abbrev Outline := List OutlinePart

namespace Outline

def slugs (outline : Outline) : List String :=
  outline.filterMap fun
    | .literal _ => none
    | .number slug => some slug

/-- The text that an outline gives with the chapter numbers of a book. -/
def fill (book : Registry) (outline : Outline) : String :=
  String.join (outline.map fun
    | .literal s => s
    | .number slug => toString (book.number slug))

theorem fill_append (book : Registry) (front back : Outline) :
    fill book (front ++ back) = fill book front ++ fill book back := by
  simp [fill, String.join_append]

@[simp] theorem fill_literal (book : Registry) (s : String) : fill book [.literal s] = s := by
  simp [fill, String.join_cons]

theorem fill_congr {book book' : Registry} {outline : Outline}
    (h : ∀ slug ∈ outline.slugs, book.number slug = book'.number slug) :
    fill book outline = fill book' outline := by
  induction outline with
  | nil => rfl
  | cons part rest ih =>
    cases part with
    | literal s =>
      have hrest := ih h
      simp_all [fill, String.join_cons]
    | number slug =>
      obtain ⟨hslug, hrest⟩ := List.forall_mem_cons.mp h
      have hrest := ih hrest
      simp_all [fill, String.join_cons]

/-- A text with a chapter number for every question mark, and all other characters as `shown` has
them. -/
def ofText (slug : String) (shown : Char → List Char) (s : String) : Outline :=
  s.toList.map fun c => if c == '?' then .number slug else .literal (String.ofList (shown c))

theorem eq_of_mem_slugs_ofText {slug slug' : String} {shown : Char → List Char} {s : String}
    (h : slug' ∈ (ofText slug shown s).slugs) : slug' = slug := by
  obtain ⟨part, hpart, heq⟩ := List.mem_filterMap.mp h
  obtain ⟨c, -, rfl⟩ := List.mem_map.mp hpart
  by_cases hc : c == '?'
  · rw [if_pos hc] at heq
    exact (Option.some.inj heq).symm
  · rw [if_neg hc] at heq
    cases heq

theorem toList_fill_ofText (book : Registry) (slug : String) (shown : Char → List Char)
    (s : String) :
    (fill book (ofText slug shown s)).toList =
      s.toList.flatMap fun c =>
        if c == '?' then (toString (book.number slug)).toList else shown c := by
  rw [fill, ofText, String.toList_join, List.map_map, List.flatMap_map]
  congr 1
  funext c
  by_cases hc : c == '?'
  · rw [Function.comp_apply, if_pos hc, if_pos hc]
  · rw [Function.comp_apply, if_neg hc, if_neg hc, String.toList_ofList]

theorem fill_ofText_raw (book : Registry) (slug s : String) :
    fill book (ofText slug (fun c => [c]) s) = Renderer.withNumber (book.number slug) s := by
  rw [← String.toList_inj, toList_fill_ofText, Renderer.withNumber, String.toList_ofList]
  rfl

theorem fill_ofText_escaped (book : Registry) (slug s : String) :
    fill book (ofText slug Latex.escapeChar s) =
      Latex.escape (Renderer.withNumber (book.number slug) s) := by
  rw [← String.toList_inj, toList_fill_ofText, Latex.toList_escape, Renderer.withNumber,
    String.toList_ofList, Latex.escapeChars, List.flatMap_assoc]
  congr 1
  funext c
  by_cases hc : c == '?'
  · rw [if_pos hc, if_pos hc]
    exact (Latex.escapeChars_toString _).symm
  · rw [if_neg hc, if_neg hc]
    simp

end Outline

/-- A text that is made of segments with the numbers between them that a book gives to slugs. -/
inductive Book.Registry.Interleaves (book : Registry) : List String → List String → String → Prop
  | last (s : String) : Interleaves book [s] [] s
  | number (s : String) {segments slugs : List String} {slug out : String} {index : Nat}
      (hindex : book.indexOf? slug = some index) (h : Interleaves book segments slugs out) :
      Interleaves book (s :: segments) (slug :: slugs) (s ++ toString index ++ out)

theorem Book.Registry.Interleaves.prepend {book : Registry} {s out : String}
    {segments slugs : List String} (u : String)
    (h : book.Interleaves (s :: segments) slugs out) :
    book.Interleaves ((u ++ s) :: segments) slugs (u ++ out) := by
  cases h with
  | last => exact .last (u ++ s)
  | number _ hindex h =>
    simp only [← String.append_assoc]
    exact .number (u ++ s) hindex h

theorem Outline.exists_interleaves (outline : Outline) :
    ∃ s segments slugs, ∀ book : Registry, (∀ slug ∈ outline.slugs, slug ∈ book.slugs) →
      book.Interleaves (s :: segments) slugs (outline.fill book) := by
  induction outline with
  | nil => exact ⟨"", [], [], fun book _ => .last ""⟩
  | cons part rest ih =>
    obtain ⟨s, segments, slugs, ih⟩ := ih
    cases part with
    | literal u =>
      refine ⟨u ++ s, segments, slugs, fun book hbook => ?_⟩
      have hrest := (ih book hbook).prepend u
      simpa [fill, String.join_cons] using hrest
    | number slug =>
      refine ⟨"", s :: segments, slug :: slugs, fun book hbook => ?_⟩
      obtain ⟨hslug, hbook⟩ := List.forall_mem_cons.mp hbook
      have hrest :=
        Registry.Interleaves.number "" (Registry.indexOf?_eq_number hslug) (ih book hbook)
      simpa [fill, String.join_cons] using hrest

end ChapterTex
