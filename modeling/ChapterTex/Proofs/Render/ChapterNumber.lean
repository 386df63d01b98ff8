import ChapterTex.Conversion
import ChapterTex.Proofs.Book.Numbering
import ChapterTex.Proofs.Render.ChapterOrder
import ChapterTex.Proofs.Render.Modes

/-!
The number that a link prints against the number that LaTeX gives to the chapter it leads to. They
agree in the books that have exactly one file of front matter.
-/
namespace ChapterTex

/-- A text token inside of a link to a chapter: no other token between them sets the linked
chapter. -/
def Emission.InLinkTo (e : Emission) (registry : Book.Registry) (slug : String)
    (before : List Emission) : Prop :=
  e.token.kind = .text ∧ ∃ fs link ms, before = fs ++ link :: ms ∧ link.token.kind = .linkOpen ∧
    link.token.linkedSlug? = some slug ∧ ∀ m ∈ ms, m.token.linkMark? registry = none

/-- A text token prints its content with this number in place of question marks. -/
def Emission.PrintsNumber (e : Emission) (n : Nat) : Prop :=
  ∀ s, e.token.content.text? = some s →
    e.text =
      if e.before.raw then Renderer.withNumber n s else Latex.escape (Renderer.withNumber n s)

namespace Renderer
variable {r : Renderer} {c c' : Context} {es : List Emission}

/-- A text in a link to a chapter prints the number of the chapter. -/
theorem printsNumber_of_inLinkTo {tokens : List Token} {slug : String} {n : Nat}
    (hn : r.registry.indexOf? slug = some n) (h : r.emissions tokens c = .ok (es, c'))
    {fs gs : List Emission} {e : Emission} (hes : es = fs ++ e :: gs)
    (hin : e.InLinkTo r.registry slug fs) : e.PrintsNumber n := by
  subst hes
  obtain ⟨hk, us, link, ms, rfl, hlink, hslug, hms⟩ := hin
  have hmark : link.token.linkMark? r.registry = some (some (n : Int)) := by
    have hmem : slug ∈ r.registry.slugs := List.isSome_idxOf?.mp (Option.isSome_of_eq_some hn)
    obtain ⟨target, htarget⟩ :=
      Option.isSome_iff_exists.mp (Token.isSome_target?_iff.mpr ⟨slug, hslug, hmem⟩)
    obtain ⟨href, -, hresolve⟩ := Option.bind_eq_some_iff.mp htarget
    have hindex := Book.Registry.indexOf?_of_resolve hresolve
    obtain rfl : target.slug = slug :=
      Option.some.inj ((Token.linkedSlug?_of_target? htarget).1.symm.trans hslug)
    obtain rfl : n = target.index := Option.some.inj (hn.symm.trans hindex)
    simp [Token.linkMark?, hlink, htarget]
  have hlinked : e.before.linkedChapter = some (n : Int) := by
    rw [before_eq_after h, Context.after, List.map_append, List.map_cons]
    exact lastMark_of_mark hmark (by simpa using hms)
  have hmem : e ∈ (us ++ link :: ms) ++ e :: gs := List.mem_append_right _ List.mem_cons_self
  obtain ⟨next, piece, c₁, hrule, htext⟩ := rule_of_mem_emitAll h hmem
  have hshown := shownText_of_rule hk hrule htext
  intro s hs
  rw [hlinked] at hshown
  rcases Datum.text?_eq_some_iff.mp hs with hc | hc <;> rw [hc] at hshown <;>
    exact (Option.some.inj hshown).symm

/-- The heading of a chapter has a star exactly in front matter. -/
theorem text_of_heading {tokens : List Token} (h : r.emissions tokens c = .ok (es, c'))
    {e : Emission} (he : e ∈ es) (hk : e.token.kind = .headingOpen)
    (htag : e.token.tag.text? = some "h1") :
    e.text = labelDirective r.chapter ++ "\\chapter" ++ (if r.frontMatter then "*" else "") ++
      "\x7b" := by
  obtain ⟨next, piece, c₁, hrule, htext⟩ := rule_of_mem_emitAll h he
  simp only [rule, hk] at hrule
  obtain ⟨-, ⟨-, rfl⟩ | ⟨tag, command, ht, hcommand, -⟩⟩ := headingOpen_eq_ok_iff.mp hrule
  · exact (Option.some.inj htext).symm
  · rw [htag] at ht
    cases ht
    have hnone : sectionCommand? "h1" = none := rfl
    rw [hnone] at hcommand
    cases hcommand

/-- The number that links to a chapter print, and the number that LaTeX gives to the chapter. In a
directory whose chapter files have different slugs the printed number is the number in LaTeX less
one and plus the amount of front matter, which is what has a heading with a star. So all the printed
numbers are right exactly if there is one file of front matter. -/
theorem printed_number_against_latex {names : List String}
    (hslugs : (names.filterMap Book.chapterSlug?).Nodup) :
    (∀ name ∈ names, ∀ slug, Book.chapterSlug? name = some slug → Book.isFrontMatter name = false →
      ∃ n, (Book.discover names).indexOf? slug = some n ∧
        n + 1 = Book.latexNumber names name + Book.frontMatterCount names ∧
        ∀ (r : Renderer) (tokens : List Token) (c c' : Context) (out : String),
          r.registry = Book.discover names → r.renderFrom tokens c = .ok (out, c') →
            ∃ es, r.emissions tokens c = .ok (es, c') ∧ out = Emission.textOf es ∧
              ∀ fs e gs, es = fs ++ e :: gs → e.InLinkTo r.registry slug fs → e.PrintsNumber n) ∧
    (∀ (q : Request) (env : Environment) (registry : Book.Registry) (tokens : List Token)
      (c c' : Context) (out : String),
        (q.renderer env registry).renderFrom tokens c = .ok (out, c') →
          ∃ es, (q.renderer env registry).emissions tokens c = .ok (es, c') ∧
            out = Emission.textOf es ∧
              ∀ e ∈ es, e.token.kind = .headingOpen → e.token.tag.text? = some "h1" →
                e.text = labelDirective (Book.chapterLabel q.path.name) ++ "\\chapter" ++
                  (if Book.isFrontMatter q.path.name then "*" else "") ++ "\x7b") ∧
    ((∃ name ∈ names, Book.isNumbered name) →
      ((∀ name ∈ names, ∀ slug, Book.chapterSlug? name = some slug →
          Book.isFrontMatter name = false →
            (Book.discover names).indexOf? slug = some (Book.latexNumber names name)) ↔
        Book.frontMatterCount names = 1)) := by
  refine ⟨?_, ?_, ?_⟩
  · intro name hname slug hslug hfront
    obtain ⟨n, hn, hcount⟩ := Book.number_eq_latexNumber_add hslugs hname hslug hfront
    refine ⟨n, hn, hcount, ?_⟩
    intro r tokens c c' out hr hout
    obtain ⟨es, hes, htext⟩ := renderFrom_eq_ok_iff_emissions.mp hout
    rw [← hr] at hn
    exact ⟨es, hes, htext, fun fs e gs hsplit hin => printsNumber_of_inLinkTo hn hes hsplit hin⟩
  · intro q env registry tokens c c' out hout
    obtain ⟨es, hes, htext⟩ := renderFrom_eq_ok_iff_emissions.mp hout
    exact ⟨es, hes, htext, fun e he hk htag => text_of_heading hes he hk htag⟩
  · rintro ⟨name, hname, hnumbered⟩
    constructor
    · intro hagree
      obtain ⟨hfile, hfront⟩ := Bool.and_eq_true_iff.mp hnumbered
      obtain ⟨slug, hslug⟩ := Option.isSome_iff_exists.mp hfile
      have hfront : Book.isFrontMatter name = false := by simpa using hfront
      obtain ⟨n, hn, hcount⟩ := Book.number_eq_latexNumber_add hslugs hname hslug hfront
      have hlatex : n = Book.latexNumber names name :=
        Option.some.inj (hn.symm.trans (hagree name hname slug hslug hfront))
      omega
    · intro hone file hfile slug hslug hfront
      obtain ⟨n, hn, hcount⟩ := Book.number_eq_latexNumber_add hslugs hfile hslug hfront
      have hlatex : n = Book.latexNumber names file := by omega
      rw [hn, hlatex]

/-- A directory with one file of front matter, and a link to its last chapter. -/
def notesBook : List String := ["02_notes.md", "README.md", "01_basics.md", "00_intro.md"]

def notesLink : List Token :=
  [{ kind := .linkOpen, attrs := [("href", .text "notes#end")] },
   { kind := .text, content := .text "Chapter ?" },
   { kind := .linkClose }]

theorem printed_number_against_latex_notes :
    (notesBook.filterMap Book.chapterSlug?).Nodup ∧
      (∃ n, (Book.discover notesBook).indexOf? "notes" = some n ∧
        n + 1 = Book.latexNumber notesBook "02_notes.md" + Book.frontMatterCount notesBook ∧
        ∃ es, emissions { registry := Book.discover notesBook, chapter := "intro" } notesLink {} =
            .ok (es, {}) ∧
          "\\hyperref[notes.end]\x7bChapter 2\x7d" = Emission.textOf es ∧
            ∀ fs e gs, es = fs ++ e :: gs →
              e.InLinkTo (Book.discover notesBook) "notes" fs → e.PrintsNumber n) ∧
      ∀ name ∈ notesBook, ∀ slug, Book.chapterSlug? name = some slug →
        Book.isFrontMatter name = false →
          (Book.discover notesBook).indexOf? slug = some (Book.latexNumber notesBook name) := by
  have hslugs : (notesBook.filterMap Book.chapterSlug?).Nodup := by decide
  have hbook : Book.discover notesBook = Book.Registry.ofList ["intro", "basics", "notes"] := by
    have hfiles : Book.chapterFiles notesBook = ["00_intro.md", "01_basics.md", "02_notes.md"] :=
      Book.chapterFiles_eq (by decide) (by decide)
    have hlist : Book.discover notesBook =
        Book.Registry.ofList ((Book.chapterFiles notesBook).filterMap Book.chapterSlug?) := rfl
    rw [hlist, hfiles]
    rfl
  obtain ⟨hlinks, -, hagree⟩ := printed_number_against_latex hslugs
  refine ⟨hslugs, ?_, ?_⟩
  · obtain ⟨n, hn, hcount, hprint⟩ :=
      hlinks "02_notes.md" (by decide) "notes" (by decide) (by decide)
    refine ⟨n, hn, hcount, hprint _ _ _ _ _ rfl ?_⟩
    rw [hbook]
    decide +kernel
  · exact (hagree ⟨"02_notes.md", by decide, by decide⟩).mpr (by decide)

end Renderer
end ChapterTex
