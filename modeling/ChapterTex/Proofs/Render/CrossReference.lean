import ChapterTex.Conversion
import ChapterTex.Proofs.Book.Discovery
import ChapterTex.Proofs.Render.Rules
import ChapterTex.Proofs.Render.Walk

/-!
Cross-references and their targets. A link to a chapter file or to an anchor in it names exactly the
label that the document of that chapter sets, whichever of its sources the document is made from.
-/
namespace ChapterTex

/-- A link to a chapter, or to an anchor in it, names the label of the chapter or of the anchor. -/
structure Emission.Refers (e : Emission) (slug anchor : String) : Prop where
  chapter : e.token.kind = .linkOpen →
    e.token.attr? "href" = some (.text slug) ∨ e.token.attr? "href" = some (.text (slug ++ "#")) →
    e.text = "\\hyperref[" ++ slug ++ "]\x7b"
  anchor : e.token.kind = .linkOpen →
    e.token.attr? "href" = some (.text (slug ++ "#" ++ anchor)) → anchor ≠ "" →
    e.text = "\\hyperref[" ++ (slug ++ "." ++ anchor) ++ "]\x7b"

/-- A chapter heading sets the label of the chapter. Other headings, paragraphs and code with the
identifier `anchor` set the label of the anchor. -/
structure Emission.SetsLabel (e : Emission) (slug anchor : String) : Prop where
  chapter : e.token.kind = .headingOpen → e.token.tag = .text "h1" →
    ∃ star, e.text = labelDirective slug ++ "\\chapter" ++ star ++ "\x7b"
  heading : e.token.kind = .headingOpen → ∀ tag ∈ ["h2", "h3", "h4"], e.token.tag = .text tag →
    e.token.attr? "id" = some (.text anchor) → anchor ≠ "" →
    ∃ command,
      e.text = "\n\n" ++ labelDirective (slug ++ "." ++ anchor) ++ "\\" ++ command ++ "\x7b"
  paragraph : e.token.kind = .paragraphOpen →
    e.token.attr? "id" = some (.text anchor) → anchor ≠ "" →
    e.text = (if e.before.quote then "" else "\n\n") ++ labelDirective (slug ++ "." ++ anchor)
  fence : e.token.kind = .fence → ∀ info, e.token.info = .text info → isHidden info = false →
    e.token.attr? "id" = some (.text anchor) → anchor ≠ "" →
    ∃ code, e.text = "\n\n" ++ labelDirective (slug ++ "." ++ anchor)
      ++ "\\begin\x7blstlisting\x7d\n" ++ code ++ "\n\\end\x7blstlisting\x7d\n\\noindent"

namespace Renderer
variable {r : Renderer} {t : Token} {c c' : Context} {es : List Emission}

theorem label_eq_of_text {anchor : String} (hid : t.attr? "id" = some (.text anchor))
    (hne : anchor ≠ "") : r.label t = labelDirective (r.chapter ++ "." ++ anchor) := by
  have ht : (Datum.text anchor).truthy = true := by simpa using hne
  rw [label_eq_of_id hid ht, Datum.display_text]

/-- A link whose target resolves prints a reference to its label. -/
theorem rule_linkOpen_eq {href : String} {link : Book.ChapterLink} (hk : t.kind = .linkOpen)
    (hhref : t.attr? "href" = some (.text href)) (hlink : r.registry.resolve href = some link)
    (next : Option Token) (c : Context) :
    r.rule t next c = .ok (.text ("\\hyperref[" ++ link.label ++ "]\x7b"),
      c.withLinkedChapter (some link.index)) := by
  simp [rule, hk, linkOpen, hhref, hlink, pure, Except.pure]

theorem emissions_refer {tokens : List Token} {slug anchor : String} (hslug : Book.IsSlug slug)
    (hmem : slug ∈ r.registry.slugs) (hanchor : '\n' ∉ anchor.toList)
    (h : r.emissions tokens c = .ok (es, c')) :
    ∀ e ∈ es, e.Refers slug anchor := by
  intro e he
  constructor
  · rintro hk (hhref | hhref)
    · obtain ⟨index, -, hlink⟩ :=
        Book.Registry.resolve_of_mem (Book.splitTarget?_slug hslug) hmem
      exact text_of_mem_emissions h he fun next => ⟨_, rule_linkOpen_eq hk hhref hlink next _⟩
    · have hsplit : Book.splitTarget? (slug ++ "#") = some (slug, some "") := by
        simpa using Book.splitTarget?_anchor hslug (by simp : '\n' ∉ "".toList)
      obtain ⟨index, -, hlink⟩ := Book.Registry.resolve_of_mem hsplit hmem
      exact text_of_mem_emissions h he fun next => ⟨_, rule_linkOpen_eq hk hhref hlink next _⟩
  · intro hk hhref hne
    obtain ⟨index, -, hlink⟩ :=
      Book.Registry.resolve_of_mem (Book.splitTarget?_anchor hslug hanchor) hmem
    have htext := text_of_mem_emissions h he
      fun next => ⟨_, rule_linkOpen_eq hk hhref hlink next _⟩
    simpa [Book.ChapterLink.label, hne] using htext

theorem emissions_set_labels {tokens : List Token} (anchor : String)
    (h : r.emissions tokens c = .ok (es, c')) : ∀ e ∈ es, e.SetsLabel r.chapter anchor := by
  intro e he
  obtain ⟨next, piece, c₁, hrule, htext⟩ := rule_of_mem_emitAll h he
  constructor
  · intro hk htag
    simp only [rule, hk] at hrule
    obtain ⟨-, ⟨-, rfl⟩ | ⟨tag, command, ht, hcommand, -⟩⟩ := headingOpen_eq_ok_iff.mp hrule
    · exact ⟨_, (Option.some.inj htext).symm⟩
    · rw [htag] at ht
      cases ht
      have hnone : sectionCommand? "h1" = none := rfl
      rw [hnone] at hcommand
      cases hcommand
  · intro hk tag hmem htag hid hne
    simp only [rule, hk] at hrule
    obtain ⟨-, ⟨h1, -⟩ | ⟨_, command, -, -, rfl⟩⟩ := headingOpen_eq_ok_iff.mp hrule
    · rw [htag] at h1
      cases h1
      simp at hmem
    · rw [label_eq_of_text hid hne] at htext
      exact ⟨command, (Option.some.inj htext).symm⟩
  · intro hk hid hne
    simp only [rule, hk] at hrule
    obtain ⟨rfl, -⟩ := paragraphOpen_eq_ok_iff.mp hrule
    rw [label_eq_of_text hid hne] at htext
    exact (Option.some.inj htext).symm
  · intro hk info hinfo hhidden hid hne
    simp only [rule, hk] at hrule
    obtain ⟨-, info', hinfo', ⟨hshown, -⟩ | ⟨-, code, -, rfl⟩⟩ := fence_eq_ok_iff.mp hrule
    · rw [hinfo] at hinfo'
      cases hinfo'
      rw [hhidden] at hshown
      cases hshown
    · rw [label_eq_of_text hid hne] at htext
      exact ⟨_, (Option.some.inj htext).symm⟩

/-- Cross-references and their targets agree. Take any chapter file `stem.md` of a directory: links
to its slug, in documents rendered in the book of that directory, name the labels that a document
sets whose name is `stem` with any suffixes. -/
theorem references_name_labels {names : List String} {stem suffixes slug anchor : String}
    (hmem : stem ++ ".md" ∈ names) (hslug : Book.chapterSlug? (stem ++ ".md") = some slug)
    (hanchor : '\n' ∉ anchor.toList) (hsuffixes : ∀ c ∈ suffixes.toList.head?, c = '.') :
    (∀ (r : Renderer) (tokens : List Token) (c c' : Context) (out : String),
      r.registry = Book.discover names → r.renderFrom tokens c = .ok (out, c') →
        ∃ es, r.emissions tokens c = .ok (es, c') ∧ out = Emission.textOf es ∧
          ∀ e ∈ es, e.Refers slug anchor) ∧
    (∀ (q : Request) (env : Environment) (registry : Book.Registry) (tokens : List Token)
      (c c' : Context) (out : String),
      q.path.name = stem ++ suffixes →
        (q.renderer env registry).renderFrom tokens c = .ok (out, c') →
          ∃ es, (q.renderer env registry).emissions tokens c = .ok (es, c') ∧
            out = Emission.textOf es ∧ ∀ e ∈ es, e.SetsLabel slug anchor) := by
  obtain ⟨hword, a, b, ha, hb, hname⟩ := Book.chapterSlug?_eq_some_iff.mp hslug
  have hstem : stem.toList = a :: b :: '_' :: slug.toList := by
    have hsuffix :
        stem.toList ++ ".md".toList = (a :: b :: '_' :: slug.toList) ++ ".md".toList := by
      simpa using hname
    exact List.append_cancel_right hsuffix
  constructor
  · intro r tokens c c' out hr hout
    obtain ⟨es, hes, htext⟩ := renderFrom_eq_ok_iff_emissions.mp hout
    refine ⟨es, hes, htext, emissions_refer hword ?_ hanchor hes⟩
    rw [hr]
    exact Book.mem_slugs_discover.mpr ⟨_, hmem, hslug⟩
  · intro q env registry tokens c c' out hq hout
    obtain ⟨es, hes, htext⟩ := renderFrom_eq_ok_iff_emissions.mp hout
    have hlabel : (q.renderer env registry).chapter = slug := by
      have hfile : q.path.name.toList = a :: b :: '_' :: (slug.toList ++ suffixes.toList) := by
        simp [hq, hstem]
      exact Book.chapterLabel_eq hword ha hb hfile hsuffixes
    refine ⟨es, hes, htext, ?_⟩
    rw [← hlabel]
    exact emissions_set_labels anchor hes

/-- A link to an anchor in the second chapter of a book, and that anchor in a token stream made from
the chapter. -/
theorem references_name_labels_basics :
    (∃ es, emissions { registry := Book.discover ["00_intro.md", "01_basics.md", "README.md"]
                       chapter := "intro" }
        [{ kind := .linkOpen, attrs := [("href", .text "basics#setup")] }] {} =
          .ok (es, { linkedChapter := some 1 }) ∧
      "\\hyperref[basics.setup]\x7b" = Emission.textOf es ∧ ∀ e ∈ es, e.Refers "basics" "setup") ∧
    (∃ es, emissions (Request.renderer { path := Path.ofString "book/01_basics.tokens.json" } {}
          (Book.Registry.ofList []))
        [{ kind := .paragraphOpen, attrs := [("id", .text "setup")] }] {} = .ok (es, {}) ∧
      "\n\n\\label\x7bbasics.setup\x7d" = Emission.textOf es ∧
        ∀ e ∈ es, e.SetsLabel "basics" "setup") := by
  obtain ⟨hlinks, hlabels⟩ := @references_name_labels
    ["00_intro.md", "01_basics.md", "README.md"] "01_basics" ".tokens.json" "basics" "setup"
    (by decide) (by decide) (by decide) (fun c hc => (Option.some.inj hc).symm)
  have hbook : Book.discover ["00_intro.md", "01_basics.md", "README.md"] =
      Book.Registry.ofList ["intro", "basics"] := by
    have hnames : ["00_intro.md", "01_basics.md", "README.md"].filter Book.isChapterFile =
        ["00_intro.md", "01_basics.md"] := by decide
    rw [Book.discover, Book.chapterFiles, hnames, List.mergeSort_of_pairwise (by decide)]
    rfl
  constructor
  · refine hlinks _ _ _ _ _ rfl ?_
    rw [hbook]
    decide +kernel
  · exact hlabels _ _ _ _ _ _ _ (by decide) (by decide +kernel)

end Renderer
end ChapterTex
