import ChapterTex.Proofs.Book.FileOrder
import ChapterTex.Proofs.Render.Compose
import ChapterTex.Proofs.Render.Outline

/-!
One document in books of different chapter order. As long as the same links of it lead to chapters,
its outline is the same in all of them, and only the numbers of the chapters differ.
-/
namespace ChapterTex
open Book (Registry)

/-- A context that knows the linked chapter by its slug. -/
structure Modes where
  raw : Bool := false
  quote : Bool := false
  linked : Option String := none

def Modes.inBook (m : Modes) (book : Registry) : Context where
  raw := m.raw
  quote := m.quote
  linkedChapter := m.linked.map fun slug => (book.number slug : Int)

def Shared (books : Registry → Prop) (slugs : List String) : Prop :=
  ∀ slug ∈ slugs, ∀ book, books book → slug ∈ book.slugs

theorem Shared.nil {books : Registry → Prop} : Shared books [] :=
  fun _ h => absurd h List.not_mem_nil

namespace Token
variable {t : Token} {book book' : Registry} {link : Book.ChapterLink}

/-- The slug of a link, whether or not there is such a chapter. -/
def linkedSlug? (t : Token) : Option String :=
  (((t.attr? "href").bind Datum.text?).bind Book.splitTarget?).map Prod.fst

theorem linkedSlug?_of_target? (h : t.target? book = some link) :
    t.linkedSlug? = some link.slug ∧ link.slug ∈ book.slugs := by
  obtain ⟨href, hhref, hlink⟩ := Option.bind_eq_some_iff.mp h
  have hindex := Registry.indexOf?_of_resolve hlink
  refine ⟨?_, List.isSome_idxOf?.mp (Option.isSome_of_eq_some hindex)⟩
  rw [linkedSlug?, hhref, Option.bind_some, Registry.splitTarget?_of_resolve hlink, Option.map_some]

/-- A link that leads to a chapter leads to the same one in every book that has it. -/
theorem target?_of_mem (h : t.target? book = some link) (hmem : link.slug ∈ book'.slugs) :
    t.target? book' = some { link with index := book'.number link.slug } := by
  obtain ⟨href, hhref, hlink⟩ := Option.bind_eq_some_iff.mp h
  obtain ⟨index, hindex, hresolve⟩ :=
    Registry.resolve_of_mem (Registry.splitTarget?_of_resolve hlink) hmem
  rw [Registry.indexOf?_eq_number hmem] at hindex
  rw [target?, hhref, Option.bind_some, hresolve, ← Option.some.inj hindex]

theorem isSome_target?_iff :
    (t.target? book).isSome ↔ ∃ slug, t.linkedSlug? = some slug ∧ slug ∈ book.slugs := by
  constructor
  · intro h
    obtain ⟨link, hlink⟩ := Option.isSome_iff_exists.mp h
    exact ⟨link.slug, linkedSlug?_of_target? hlink⟩
  · rintro ⟨slug, hslug, hmem⟩
    obtain ⟨⟨slug, anchor⟩, hsplit, rfl⟩ := Option.map_eq_some_iff.mp hslug
    obtain ⟨href, hhref, hsplit⟩ := Option.bind_eq_some_iff.mp hsplit
    obtain ⟨index, -, hresolve⟩ := Registry.resolve_of_mem hsplit hmem
    rw [target?, hhref, Option.bind_some, hresolve, Option.isSome_some]

/-- The same links of a stream lead to chapters in two books. -/
def SameLinks (book book' : Registry) (tokens : List Token) : Prop :=
  ∀ t ∈ leaves tokens, t.kind = .linkOpen → (t.target? book).isSome = (t.target? book').isSome

instance (book book' : Registry) (tokens : List Token) : Decidable (SameLinks book book' tokens) :=
  inferInstanceAs (Decidable (∀ t ∈ leaves tokens, _))

end Token

namespace Renderer

def inBook (r : Renderer) (book : Registry) : Renderer := { r with registry := book }

/-- What becomes of a document is the same in all the books, but for the chapter numbers. -/
inductive Uniform (books : Registry → Prop) (x : Registry → Except Failure (String × Context)) :
    Prop
  | fails (f : Failure) (h : ∀ book, books book → x book = .error f)
  | prints (outline : Outline) (m : Modes) (hslugs : Shared books outline.slugs)
      (hlinked : Shared books m.linked.toList)
      (h : ∀ book, books book → x book = .ok (outline.fill book, m.inBook book))

variable {r : Renderer} {t : Token} {tokens : List Token} {books : Registry → Prop} {m : Modes}

theorem Uniform.andThen {x : Registry → Except Failure (String × Context)}
    {y : Registry → Context → Except Failure (String × Context)} (hx : Uniform books x)
    (hy : ∀ m : Modes, Shared books m.linked.toList →
      Uniform books fun book => y book (m.inBook book)) :
    Uniform books fun book => x book >>= fun p => prepend p.1 (y book p.2) := by
  cases hx with
  | fails f hx => exact .fails f fun book hbook => by rw [hx book hbook]; rfl
  | prints outline m hslugs hlinked hx =>
    cases hy m hlinked with
    | fails f hy =>
      refine .fails f fun book hbook => ?_
      simp only [hx book hbook, bind, Except.bind, hy book hbook, prepend_error]
    | prints outline' m' hslugs' hlinked' hy =>
      refine .prints (outline ++ outline') m' ?_ hlinked' fun book hbook => ?_
      · intro slug hslug
        rw [Outline.slugs, List.filterMap_append] at hslug
        rcases List.mem_append.mp hslug with hslug | hslug
        · exact hslugs slug hslug
        · exact hslugs' slug hslug
      · simp only [hx book hbook, bind, Except.bind, hy book hbook, prepend_ok, Outline.fill_append]

def shown (x : Rendered) : Except Failure (String × Context) := (fun p => (p.1.display, p.2)) <$> x

/-- Only texts and links have to do with the linked chapter. -/
theorem rule_withLinkedChapter (htext : t.kind ≠ .text) (hopen : t.kind ≠ .linkOpen)
    (hclose : t.kind ≠ .linkClose) (next : Option Token) (c : Context) (link : Option Int) :
    r.rule t next (c.withLinkedChapter link) =
      (fun p => (p.1, p.2.withLinkedChapter link)) <$> r.rule t next c := by
  cases hk : t.kind <;> simp only [rule, hk]
  case text => exact absurd hk htext
  case linkOpen => exact absurd hk hopen
  case linkClose => exact absurd hk hclose
  case paragraphOpen =>
    obtain ⟨raw, quote, linkedChapter⟩ := c
    cases quote <;> rfl
  case headingOpen =>
    unfold headingOpen
    split
    · rfl
    · split <;> rfl
  case fence =>
    unfold fence
    cases t.info.text? with
    | none => rfl
    | some info =>
      dsimp only
      split
      · rfl
      · cases t.content.text? <;> rfl
  case codeInline =>
    unfold codeInline
    cases Latex.escapeVerbatimDatum t.content <;> rfl
  case metaIndexsee =>
    unfold metaIndexsee
    split <;> rfl
  case metaFigure =>
    unfold metaFigure
    cases fieldsOf (t.argument?.getD (.dict [])) with
    | error f => rfl
    | ok figure =>
      simp only [bind, Except.bind]
      cases ((Datum.field? figure "url").orElse (.text "")).text? <;> rfl
  case metaQuoteOpen =>
    unfold metaQuoteOpen
    cases quotation t with
    | error f => rfl
    | ok quote =>
      simp only [bind, Except.bind]
      split <;> rfl
  case metaQuoteClose =>
    unfold metaQuoteClose
    cases quotation t with
    | error f => rfl
    | ok quote =>
      simp only [bind, Except.bind]
      cases attribution quote with
      | error f => rfl
      | ok s =>
        dsimp only
        split <;> rfl
  all_goals rfl

/-- Only the opening of a link looks into the book. -/
theorem rule_inBook (hopen : t.kind ≠ .linkOpen) (next : Option Token) (c : Context)
    (book : Registry) : (r.inBook book).rule t next c = r.rule t next c := by
  cases hk : t.kind <;> simp only [rule, hk]
  case linkOpen => exact absurd hk hopen
  all_goals rfl

section
variable (hsome : ∀ book book', books book → books book' →
  (t.target? book).isSome = (t.target? book').isSome)
include hsome

theorem uniform_linkOpen (hm : Shared books m.linked.toList) :
    Uniform books fun book => shown ((r.inBook book).linkOpen t (m.inBook book)) := by
  cases hh : (((t.attr? "href").getD .null).orElse (.text "")).text? with
  | none => exact .fails .wrongKind fun book _ => by simp [linkOpen, hh, shown]
  | some href =>
    by_cases hlink : ∃ book, books book ∧ (t.target? book).isSome
    · obtain ⟨book₀, hbook₀, hlink⟩ := hlink
      obtain ⟨link, hlink⟩ := Option.isSome_iff_exists.mp hlink
      have hall : ∀ book, books book → link.slug ∈ book.slugs ∧
          t.target? book = some { link with index := book.number link.slug } := by
        intro book hbook
        have hbook := hsome book₀ book hbook₀ hbook
        rw [hlink, Option.isSome_some] at hbook
        obtain ⟨slug, hslug, hmem⟩ := Token.isSome_target?_iff.mp hbook.symm
        obtain rfl : link.slug = slug :=
          Option.some.inj ((Token.linkedSlug?_of_target? hlink).1.symm.trans hslug)
        exact ⟨hmem, Token.target?_of_mem hlink hmem⟩
      refine .prints [.literal ("\\hyperref[" ++ link.label ++ "]\x7b")]
        { m with linked := some link.slug } .nil ?_ fun book hbook => ?_
      · intro slug hslug book hbook
        rw [List.mem_singleton.mp hslug]
        exact (hall book hbook).1
      · have hresolve : (r.inBook book).registry.resolve href = _ :=
          (Token.resolve_of_href hh).trans (hall book hbook).2
        have hrule : (r.inBook book).linkOpen t (m.inBook book) =
            .ok (.text ("\\hyperref[" ++ link.label ++ "]\x7b"),
              (m.inBook book).withLinkedChapter (some (book.number link.slug))) := by
          simp [linkOpen, hh, hresolve, pure, Except.pure, Book.ChapterLink.label]
        rw [hrule, Outline.fill_literal]
        rfl
    · have hall : ∀ book, books book → t.target? book = none := by
        intro book hbook
        rw [← Option.not_isSome_iff_eq_none]
        exact fun h => hlink ⟨book, hbook, h⟩
      refine .prints [.literal ("\\href\x7b" ++ href ++ "\x7d\x7b")] m .nil hm fun book hbook => ?_
      have hresolve : (r.inBook book).registry.resolve href = none :=
        (Token.resolve_of_href hh).trans (hall book hbook)
      have hrule : (r.inBook book).linkOpen t (m.inBook book) =
          .ok (.text ("\\href\x7b" ++ href ++ "\x7d\x7b"), m.inBook book) := by
        simp [linkOpen, hh, hresolve, pure, Except.pure]
      rw [hrule, Outline.fill_literal]
      rfl

end

theorem uniform_text (ht : t.content.text?.isSome) (hm : Shared books m.linked.toList) :
    Uniform books fun book => shown (text t (m.inBook book)) := by
  obtain ⟨raw, quote, linked⟩ := m
  obtain ⟨s, hs⟩ := Option.isSome_iff_exists.mp ht
  cases linked with
  | none =>
    -- The context is the same in all the books.
    have hshown : ∃ out, shown (text t ⟨raw, quote, none⟩) = .ok (out, ⟨raw, quote, none⟩) := by
      cases raw <;> rcases Datum.text?_eq_some_iff.mp hs with h | h <;>
        simp [text, numbered, h, Latex.escapeDatum, shown, bind, Except.bind, pure, Except.pure]
    obtain ⟨out, hout⟩ := hshown
    exact .prints [.literal out] ⟨raw, quote, none⟩ .nil hm fun book _ => by
      rw [Outline.fill_literal]
      exact hout
  | some slug =>
    have hslugs : ∀ enc : Char → List Char, Shared books (Outline.ofText slug enc s).slugs := by
      intro enc slug' hslug'
      rw [Outline.eq_of_mem_slugs_ofText hslug']
      exact hm slug (by simp)
    cases raw with
    | true =>
      refine .prints (.ofText slug (fun c => [c]) s) ⟨true, quote, some slug⟩ (hslugs _) hm
        fun book _ => ?_
      rw [Outline.fill_ofText_raw]
      simp [text, numbered, hs, shown, Modes.inBook, bind, Except.bind, pure, Except.pure]
    | false =>
      refine .prints (.ofText slug Latex.escapeChar s) ⟨false, quote, some slug⟩ (hslugs _) hm
        fun book _ => ?_
      rw [Outline.fill_ofText_escaped]
      simp [text, numbered, hs, shown, Modes.inBook, Latex.escapeDatum, bind, Except.bind, pure,
        Except.pure]

theorem uniform_rule (htext : t.kind = .text → t.content.text?.isSome = true)
    (hsome : t.kind = .linkOpen → ∀ book book', books book → books book' →
      (t.target? book).isSome = (t.target? book').isSome)
    (hm : Shared books m.linked.toList) (next : Option Token) :
    Uniform books fun book => shown ((r.inBook book).rule t next (m.inBook book)) := by
  by_cases hk : t.kind = .text
  · simp only [rule, hk]
    exact uniform_text (htext hk) hm
  by_cases hopen : t.kind = .linkOpen
  · simp only [rule, hopen]
    exact uniform_linkOpen (hsome hopen) hm
  by_cases hclose : t.kind = .linkClose
  · simp only [rule, hclose]
    exact .prints [.literal "\x7d"] { m with linked := none } .nil .nil fun book _ => rfl
  -- No other rule looks at the book or the linked chapter, so one of their outcomes is that of all.
  have hrule : ∀ book, (r.inBook book).rule t next (m.inBook book) =
      (fun p => (p.1, p.2.withLinkedChapter (m.inBook book).linkedChapter)) <$>
        r.rule t next ⟨m.raw, m.quote, none⟩ := by
    intro book
    rw [rule_inBook hopen, ← rule_withLinkedChapter hk hopen hclose]
    rfl
  cases h : r.rule t next ⟨m.raw, m.quote, none⟩ with
  | error f => exact .fails f fun book _ => by rw [hrule, h]; rfl
  | ok p =>
    refine .prints [.literal p.1.display] ⟨p.2.raw, p.2.quote, m.linked⟩ .nil hm fun book _ => ?_
    rw [hrule, h, Outline.fill_literal]
    rfl

theorem uniform_renderFrom (htexts : Token.HoldTexts tokens)
    (hsome : ∀ t ∈ Token.leaves tokens, t.kind = .linkOpen → ∀ book book',
      books book → books book' → (t.target? book).isSome = (t.target? book').isSome)
    (hm : Shared books m.linked.toList) :
    Uniform books fun book => (r.inBook book).renderFrom tokens (m.inBook book) := by
  induction tokens using Token.stream_induction generalizing m with
  | nil => exact .prints [] m .nil hm fun book _ => rfl
  | inline t rest hk ihc ihr =>
    rw [Token.leaves_cons_inline hk] at hsome
    simp only [renderFrom_cons_inline hk]
    refine Uniform.andThen (ihc (htexts.children hk) ?_ hm) fun m' hm' => ihr htexts.tail ?_ hm'
    · exact fun u hu => hsome u (List.mem_append_left _ hu)
    · exact fun u hu => hsome u (List.mem_append_right _ hu)
  | leaf t rest hk ih =>
    rw [Token.leaves_cons_leaf hk] at hsome
    have hfirst := uniform_rule (r := r) htexts.head (hsome t List.mem_cons_self) hm rest.head?
    have hsplit : ∀ book, (r.inBook book).renderFrom (t :: rest) (m.inBook book) =
        shown ((r.inBook book).rule t rest.head? (m.inBook book)) >>= fun p =>
          prepend p.1 ((r.inBook book).renderFrom rest p.2) := by
      intro book
      rw [renderFrom_cons_leaf hk htexts.head]
      cases (r.inBook book).rule t rest.head? (m.inBook book) <;> rfl
    simp only [hsplit]
    exact hfirst.andThen fun m' hm' =>
      ih htexts.tail (fun u hu => hsome u (List.mem_cons_of_mem t hu)) hm'

theorem uniform_render (htexts : Token.HoldTexts tokens) {book book' : Registry}
    (h : Token.SameLinks book book' tokens) (r : Renderer) :
    (∃ f, (r.inBook book).render tokens = .error f ∧ (r.inBook book').render tokens = .error f) ∨
      ∃ outline : Outline, (∀ slug ∈ outline.slugs, slug ∈ book.slugs ∧ slug ∈ book'.slugs) ∧
        (r.inBook book).render tokens = .ok (outline.fill book) ∧
          (r.inBook book').render tokens = .ok (outline.fill book') := by
  have hsome : ∀ t ∈ Token.leaves tokens, t.kind = .linkOpen →
      ∀ b b', (b = book ∨ b = book') → (b' = book ∨ b' = book') →
        (t.target? b).isSome = (t.target? b').isSome := by
    rintro t ht hk b b' (rfl | rfl) (rfl | rfl)
    · rfl
    · exact h t ht hk
    · exact (h t ht hk).symm
    · rfl
  have huniform := uniform_renderFrom (r := r) (m := {}) htexts hsome .nil
  cases huniform with
  | fails f h =>
    have hfails : ∀ b, (b = book ∨ b = book') → (r.inBook b).render tokens = .error f := by
      intro b hb
      have hb : (r.inBook b).renderFrom tokens {} = .error f := h b hb
      rw [render, hb]
      rfl
    exact .inl ⟨f, hfails book (.inl rfl), hfails book' (.inr rfl)⟩
  | prints outline m hslugs _ h =>
    have hprints : ∀ b, (b = book ∨ b = book') →
        (r.inBook b).render tokens = .ok (outline.fill b) := by
      intro b hb
      have hb : (r.inBook b).renderFrom tokens {} = .ok (outline.fill b, m.inBook b) := h b hb
      rw [render, hb]
      rfl
    refine .inr ⟨outline, fun slug hslug => ?_, hprints book (.inl rfl), hprints book' (.inr rfl)⟩
    exact ⟨hslugs slug hslug book (.inl rfl), hslugs slug hslug book' (.inr rfl)⟩

/-- The order of the chapters changes nothing but their numbers. If the same links of a document
lead to chapters in two books, it fails in both alike, or the two texts are the same segments with
the numbers of the same chapters between them. A chapter file behind all others changes nothing at
all, unless the document links to its chapter. -/
theorem chapter_order_changes_numbers (htexts : Token.HoldTexts tokens) (r : Renderer) :
    (∀ book book' : Registry, Token.SameLinks book book' tokens →
      (∃ f, (r.inBook book).render tokens = .error f ∧ (r.inBook book').render tokens = .error f) ∨
        ∃ segments slugs out out', (r.inBook book).render tokens = .ok out ∧
          (r.inBook book').render tokens = .ok out' ∧
            book.Interleaves segments slugs out ∧ book'.Interleaves segments slugs out') ∧
    (∀ (names names' : List String) (name slug : String), names'.Perm (name :: names) →
      Book.chapterSlug? name = some slug →
      (∀ other ∈ names, Book.isChapterFile other → other < name) →
      (∀ t ∈ Token.leaves tokens, t.kind = .linkOpen → t.linkedSlug? ≠ some slug) →
        (r.inBook (Book.discover names')).render tokens =
          (r.inBook (Book.discover names)).render tokens) := by
  constructor
  · intro book book' h
    rcases uniform_render htexts h r with hfails | ⟨outline, hslugs, hout, hout'⟩
    · exact .inl hfails
    · obtain ⟨s, segments, slugs, hinter⟩ := outline.exists_interleaves
      exact .inr ⟨s :: segments, slugs, _, _, hout, hout',
        hinter book fun slug hslug => (hslugs slug hslug).1,
        hinter book' fun slug hslug => (hslugs slug hslug).2⟩
  · intro names names' name slug hperm hname hlater hlinks
    have hsame : Token.SameLinks (Book.discover names') (Book.discover names) tokens := by
      intro t ht hk
      rw [Bool.eq_iff_iff, Token.isSome_target?_iff, Token.isSome_target?_iff]
      refine exists_congr fun linked => and_congr_right fun hlinked => ?_
      rw [Book.mem_slugs_discover_of_perm hperm hname]
      refine or_iff_right ?_
      rintro rfl
      exact hlinks t ht hk hlinked
    rcases uniform_render htexts hsame r with ⟨f, hf, hf'⟩ | ⟨outline, hslugs, hout, hout'⟩
    · rw [hf, hf']
    · rw [hout, hout']
      refine congrArg Except.ok (Outline.fill_congr fun linked hlinked => ?_)
      have hfile : Book.isChapterFile name := by simp [Book.isChapterFile, hname]
      rw [Registry.number, Registry.number,
        Book.indexOf?_discover_of_later hperm hfile hlater (hslugs linked hlinked).2]

/-- Question marks in a link across inline tokens, in a link to a file, and outside of links. -/
def questioningTokens : List Token :=
  [{ kind := .linkOpen, attrs := [("href", .text "basics#setup")] },
   { kind := .inline, children := [{ kind := .text, content := .text "Chapter ?: why_?" }] },
   { kind := .linkOpen, attrs := [("href", .text "notes.html")] },
   { kind := .text, content := .text "?" },
   { kind := .linkClose },
   { kind := .text, content := .text "?" }]

theorem chapter_order_changes_numbers_swapped :
    Token.HoldTexts questioningTokens ∧
      Token.SameLinks (Registry.ofList ["intro", "basics"]) (Registry.ofList ["basics", "notes"])
        questioningTokens ∧
      (∃ segments slugs,
        (Registry.ofList ["intro", "basics"]).Interleaves segments slugs
            "\\hyperref[basics.setup]\x7bChapter 1: why\\_1\\href\x7bnotes.html\x7d\x7b1\x7d?" ∧
          (Registry.ofList ["basics", "notes"]).Interleaves segments slugs
            "\\hyperref[basics.setup]\x7bChapter 0: why\\_0\\href\x7bnotes.html\x7d\x7b0\x7d?") ∧
      render { registry := Book.discover ["02_notes.md", "README.md", "01_basics.md", "00_intro.md"]
               chapter := "intro" } questioningTokens =
        render { registry := Book.discover ["00_intro.md", "01_basics.md", "README.md"]
                 chapter := "intro" } questioningTokens := by
  have htexts : Token.HoldTexts questioningTokens := by
    unfold Token.HoldTexts
    decide +kernel
  have hsame : Token.SameLinks (Registry.ofList ["intro", "basics"])
      (Registry.ofList ["basics", "notes"]) questioningTokens := by decide +kernel
  obtain ⟨hbooks, hfiles⟩ := chapter_order_changes_numbers htexts
    { registry := Registry.ofList [], chapter := "intro" }
  refine ⟨htexts, hsame, ?_, ?_⟩
  · have hout : render { registry := Registry.ofList ["intro", "basics"], chapter := "intro" }
        questioningTokens = .ok
          "\\hyperref[basics.setup]\x7bChapter 1: why\\_1\\href\x7bnotes.html\x7d\x7b1\x7d?" := by
      decide +kernel
    have hout' : render { registry := Registry.ofList ["basics", "notes"], chapter := "intro" }
        questioningTokens = .ok
          "\\hyperref[basics.setup]\x7bChapter 0: why\\_0\\href\x7bnotes.html\x7d\x7b0\x7d?" := by
      decide +kernel
    rcases hbooks _ _ hsame with ⟨f, hf, -⟩ | ⟨segments, slugs, out, out', h, h', hi, hi'⟩
    · cases hout.symm.trans hf
    · cases hout.symm.trans h
      cases hout'.symm.trans h'
      exact ⟨segments, slugs, hi, hi'⟩
  · exact hfiles ["00_intro.md", "01_basics.md", "README.md"] _ "02_notes.md" "notes" (by decide)
      (by decide) (by decide) (by decide +kernel)

end Renderer
end ChapterTex
