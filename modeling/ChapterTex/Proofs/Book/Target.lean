import Mathlib.Data.Finset.Card
import ChapterTex.Proofs.Book.Discovery

/-!
Link targets. A target resolves exactly if it is spelled by a chapter of the book and an anchor, and
then to these two and to the number of the chapter, which counts the chapters that came up before
it.
-/
namespace ChapterTex.Book

/-- The target that a slug and an anchor make together. -/
def joinTarget (slug : String) : Option String → String
  | none => slug
  | some anchor => slug ++ "#" ++ anchor

/-- Whether a target is spelled by a slug, alone or before an anchor on the rest of one line. -/
structure Spells (target slug : String) (anchor : Option String) : Prop where
  word : IsSlug slug
  line : ∀ a ∈ anchor, '\n' ∉ a.toList
  joined : joinTarget slug anchor = target

theorem splitTarget?_iff_spells {target slug : String} {anchor : Option String} :
    splitTarget? target = some (slug, anchor) ↔ Spells target slug anchor := by
  rw [splitTarget?_eq_some_iff]
  constructor
  · rintro ⟨hslug, ⟨rfl, rfl⟩ | ⟨rest, hline, rfl, rfl⟩⟩
    · exact ⟨hslug, by simp, rfl⟩
    · exact ⟨hslug, by simpa using hline, rfl⟩
  · rintro ⟨hslug, hline, rfl⟩
    cases anchor with
    | none => exact ⟨hslug, .inl ⟨rfl, rfl⟩⟩
    | some rest => exact ⟨hslug, .inr ⟨rest, hline rest rfl, rfl, rfl⟩⟩

theorem Spells.unique {target slug slug' : String} {anchor anchor' : Option String}
    (h : Spells target slug anchor) (h' : Spells target slug' anchor') :
    slug = slug' ∧ anchor = anchor' := by
  have hsplit := splitTarget?_iff_spells.mpr h
  rw [splitTarget?_iff_spells.mpr h'] at hsplit
  cases hsplit
  exact ⟨rfl, rfl⟩

/-- Distinct texts stand in the order in which they first occur. -/
theorem pairwise_distinct (slugs : List String) :
    (distinct slugs).Pairwise fun s t => slugs.idxOf s < slugs.idxOf t := by
  induction slugs with
  | nil => exact List.Pairwise.nil
  | cons u rest ih =>
    refine pairwise_distinct_cons ?_ (ih.imp ?_)
    · intro t _ hne
      rw [List.idxOf_cons_self, List.idxOf_cons_ne _ hne.symm]
      exact Nat.succ_pos _
    · intro s t hlt hs ht
      rw [List.idxOf_cons_ne _ hs.symm, List.idxOf_cons_ne _ ht.symm]
      exact Nat.succ_lt_succ hlt

/-- In a list with growing keys, the place of an element is told by the number of smaller keys. -/
theorem countP_lt_of_getElem? {key : String → Nat} {l : List String}
    (h : l.Pairwise fun s t => key s < key t) {i : Nat} {s : String} (hs : l[i]? = some s) :
    l.countP (fun t => decide (key t < key s)) = i := by
  induction l generalizing i with
  | nil => cases hs
  | cons u rest ih =>
    obtain ⟨hfirst, hrest⟩ := List.pairwise_cons.mp h
    cases i with
    | zero =>
      obtain rfl : u = s := by simpa using hs
      rw [List.countP_cons_of_neg (by simp), List.countP_eq_zero]
      intro t ht hlt
      exact absurd (hfirst t ht) (Nat.lt_asymm (of_decide_eq_true hlt))
    | succ i =>
      have hs : rest[i]? = some s := hs
      have hlt : key u < key s := hfirst s (List.mem_of_getElem? hs)
      rw [List.countP_cons_of_pos (by simpa using hlt), ih hrest hs]

/-- The number of a chapter counts the slugs that came up for the first time before its own did. -/
theorem card_earlier_of_indexOf? {slugs : List String} {slug : String} {index : Nat}
    (h : (Registry.ofList slugs).indexOf? slug = some index) :
    (slugs.toFinset.filter fun s => slugs.idxOf s < slugs.idxOf slug).card = index := by
  have hplace := Registry.indexOf?_eq_some_iff.mp h
  have hcount := countP_lt_of_getElem? (pairwise_distinct slugs) hplace
  have hset : slugs.toFinset.filter (fun s => slugs.idxOf s < slugs.idxOf slug) =
      ((distinct slugs).filter fun s => decide (slugs.idxOf s < slugs.idxOf slug)).toFinset := by
    ext s
    simp [mem_distinct]
  rw [hset, List.toFinset_card_of_nodup ((nodup_distinct slugs).filter _),
    ← List.countP_eq_length_filter, hcount]

theorem Registry.resolve_eq_some_iff {r : Registry} {target : String} {link : ChapterLink} :
    r.resolve target = some link ↔
      Spells target link.slug link.anchor ∧ r.slugs[link.index]? = some link.slug := by
  rw [← splitTarget?_iff_spells, ← indexOf?_eq_some_iff]
  constructor
  · intro h
    exact ⟨splitTarget?_of_resolve h, indexOf?_of_resolve h⟩
  · rintro ⟨hsplit, hindex⟩
    simp [resolve, hsplit, hindex]

/-- Link resolution accepts exactly its grammar and loses nothing. A target resolves if and only if
it is spelled by a slug of the book, in one way only, and the link tells the target, so no two
targets have the same one. Its number is how many slugs came up before its own, which is the place
in reading order. -/
theorem targets_resolve_exactly (slugs : List String) :
    (∀ target, ((Registry.ofList slugs).resolve target).isSome = true ↔
        ∃ slug anchor, Spells target slug anchor ∧ slug ∈ slugs) ∧
      (∀ target slug anchor slug' anchor', Spells target slug anchor → Spells target slug' anchor' →
        slug = slug' ∧ anchor = anchor') ∧
      (∀ target link, (Registry.ofList slugs).resolve target = some link →
        Spells target link.slug link.anchor ∧
          link.index = (slugs.toFinset.filter fun s => slugs.idxOf s < slugs.idxOf link.slug).card ∧
            ∀ i, (Registry.ofList slugs).slugs[i]? = some link.slug ↔ i = link.index) ∧
      ∀ target target' link link', (Registry.ofList slugs).resolve target = some link →
        (Registry.ofList slugs).resolve target' = some link' → link.slug = link'.slug →
          link.anchor = link'.anchor → target = target' := by
  refine ⟨fun target => ?_, fun _ _ _ _ _ => Spells.unique, fun target link h => ?_, ?_⟩
  · rw [Option.isSome_iff_exists]
    constructor
    · rintro ⟨link, h⟩
      obtain ⟨hspells, hplace⟩ := Registry.resolve_eq_some_iff.mp h
      exact ⟨link.slug, link.anchor, hspells, mem_distinct.mp (List.mem_of_getElem? hplace)⟩
    · rintro ⟨slug, anchor, hspells, hmem⟩
      obtain ⟨index, -, h⟩ := Registry.resolve_of_mem (r := Registry.ofList slugs)
        (splitTarget?_iff_spells.mpr hspells) (mem_distinct.mpr hmem)
      exact ⟨_, h⟩
  · have hindex := Registry.indexOf?_of_resolve h
    refine ⟨(Registry.resolve_eq_some_iff.mp h).1, (card_earlier_of_indexOf? hindex).symm,
      fun i => ?_⟩
    rw [← Registry.indexOf?_eq_some_iff, hindex, Option.some.injEq, eq_comm]
  · intro target target' link link' h h' hslug hanchor
    obtain ⟨⟨-, -, rfl⟩, -⟩ := Registry.resolve_eq_some_iff.mp h
    obtain ⟨⟨-, -, rfl⟩, -⟩ := Registry.resolve_eq_some_iff.mp h'
    rw [hslug, hanchor]

/-- A slug that comes up again has no number of its own, and an anchor keeps its marks. -/
theorem targets_resolve_exactly_repeated :
    ((Registry.ofList ["intro", "basics", "intro", "advanced"]).resolve "advanced#a#").isSome =
        true ∧
      Spells "advanced#a#" "advanced" (some "a#") ∧
      2 = ((["intro", "basics", "intro", "advanced"] : List String).toFinset.filter fun s =>
        ["intro", "basics", "intro", "advanced"].idxOf s <
          ["intro", "basics", "intro", "advanced"].idxOf "advanced").card := by
  obtain ⟨hresolves, -, hlink, -⟩ :=
    targets_resolve_exactly ["intro", "basics", "intro", "advanced"]
  have hspells : Spells "advanced#a#" "advanced" (some "a#") :=
    ⟨⟨by decide, List.all_eq_true.mp rfl⟩, by decide, by decide⟩
  obtain ⟨-, hindex, -⟩ := hlink "advanced#a#" ⟨"advanced", some "a#", 2⟩ (by decide)
  exact ⟨(hresolves _).mpr ⟨_, _, hspells, by decide⟩, hspells, hindex⟩

end ChapterTex.Book
