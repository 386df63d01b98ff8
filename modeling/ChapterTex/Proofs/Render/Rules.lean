import ChapterTex.Proofs.Outcome
import ChapterTex.Render.Basic

/-!
The rules of the renderer by their results: when a rule gives a text, which text that is, and which
context it leaves.
-/
namespace ChapterTex

def labelDirective (label : String) : String := "\\label\x7b" ++ label ++ "\x7d"

namespace Token

def target? (registry : Book.Registry) (t : Token) : Option Book.ChapterLink :=
  ((t.attr? "href").bind Datum.text?).bind registry.resolve

/-- Whether a quotation is an epigraph: its argument names a chapter. -/
def isEpigraph (t : Token) : Bool :=
  match t.argument? with
  | some (.dict fields) => (Datum.field? fields "chapter").truthy
  | _ => false

theorem resolve_of_href {registry : Book.Registry} {t : Token} {href : String}
    (h : (((t.attr? "href").getD .null).orElse (.text "")).text? = some href) :
    registry.resolve href = t.target? registry := by
  have hempty : registry.resolve "" = none := rfl
  unfold target?
  cases hd : t.attr? "href" with
  | none =>
    rw [hd] at h
    cases h
    exact hempty
  | some d =>
    rw [hd, Option.getD_some] at h
    cases ht : d.truthy with
    | true =>
      rw [Datum.orElse_of_truthy ht] at h
      simp [h]
    | false =>
      rw [Datum.orElse_of_not_truthy ht] at h
      cases h
      cases d <;> simp_all [Datum.truthy, Datum.text?]

end Token

namespace Renderer
variable {r : Renderer} {t : Token} {c c' : Context} {d : Datum}

theorem label_eq_of_id {anchor : Datum} (hid : t.attr? "id" = some anchor)
    (h : anchor.truthy = true) :
    r.label t = labelDirective (r.chapter ++ "." ++ anchor.display) := by
  simp only [label, hid, h, if_true, labelDirective, String.append_assoc]

theorem paragraphOpen_eq_ok_iff :
    r.paragraphOpen t c = .ok (d, c') ↔
      .text ((if c.quote then "" else "\n\n") ++ r.label t) = d ∧ c.withQuote false = c' := by
  obtain ⟨raw, quote, link⟩ := c
  cases quote <;> simp [paragraphOpen, Context.withQuote]

theorem headingOpen_eq_ok_iff :
    r.headingOpen t c = .ok (d, c') ↔ c = c' ∧
      ((t.tag.text? = some "h1" ∧ .text (labelDirective r.chapter ++ "\\chapter" ++
          (if r.frontMatter then "*" else "") ++ "\x7b") = d) ∨
        ∃ tag command, t.tag.text? = some tag ∧ sectionCommand? tag = some command ∧
          .text ("\n\n" ++ r.label t ++ "\\" ++ command ++ "\x7b") = d) := by
  by_cases h1 : t.tag.text? = some "h1"
  · have hnone : sectionCommand? "h1" = none := rfl
    simp [headingOpen, h1, hnone, labelDirective, String.append_assoc, and_comm]
  · have hne : (t.tag.text? == some "h1") = false := by simpa using h1
    simp only [headingOpen, hne, h1, Bool.false_eq_true, ↓reduceIte, false_and, false_or]
    cases ht : t.tag.text? with
    | none => simp
    | some tag =>
      cases hc : sectionCommand? tag with
      | none => simp [hc]
      | some command => simp [hc, and_comm]

theorem fence_eq_ok_iff :
    r.fence t c = .ok (d, c') ↔ c = c' ∧ ∃ info, t.info.text? = some info ∧
      ((isHidden info = true ∧ .text "" = d) ∨
        (isHidden info = false ∧ ∃ code, t.content.text? = some code ∧
          .text ("\n\n" ++ r.label t ++ "\\begin\x7blstlisting\x7d\n" ++
            Text.trimEndText code ++ "\n\\end\x7blstlisting\x7d\n\\noindent") = d)) := by
  cases hi : t.info.text? with
  | none => simp [fence, hi]
  | some info =>
    cases hh : isHidden info with
    | true => simp [fence, hi, hh, pure_eq_ok_iff, and_comm]
    | false =>
      cases hc : t.content.text? with
      | none => simp [fence, hi, hh, hc]
      | some code => simp [fence, hi, hh, hc, pure_eq_ok_iff, and_comm]

theorem codeInline_eq_ok_iff :
    codeInline t c = .ok (d, c') ↔ c = c' ∧ ∃ code, t.content.text? = some code ∧
      .text ("\\lstinline`" ++ Latex.escapeVerbatim code ++ "`") = d := by
  simp only [codeInline, bind_eq_ok_iff, pure_eq_ok_iff, Prod.mk.injEq]
  cases t.content <;> simp [Latex.escapeVerbatimDatum, Datum.text?, and_comm]

/-- A link prints a reference if its target is a chapter of the book, and its address otherwise. -/
theorem linkOpen_eq_ok_iff :
    r.linkOpen t c = .ok (d, c') ↔ ∃ href,
      (((t.attr? "href").getD .null).orElse (.text "")).text? = some href ∧
        ((t.target? r.registry = none ∧
            .text ("\\href\x7b" ++ href ++ "\x7d\x7b") = d ∧ c = c') ∨
          ∃ link, t.target? r.registry = some link ∧
            .text ("\\hyperref[" ++ link.label ++ "]\x7b") = d ∧
              c.withLinkedChapter (some link.index) = c') := by
  cases hh : (((t.attr? "href").getD .null).orElse (.text "")).text? with
  | none => simp [linkOpen, hh]
  | some href =>
    have hl : r.registry.resolve href = t.target? r.registry := Token.resolve_of_href hh
    cases ht : t.target? r.registry <;> simp [linkOpen, hh, hl, ht, pure_eq_ok_iff]

theorem metaIndexsee_eq_ok_iff :
    metaIndexsee t c = .ok (d, c') ↔ c = c' ∧ ∃ term target rest,
      t.args = term :: target :: rest ∧ .text (Latex.indexSee term target) = d := by
  unfold metaIndexsee
  split
  · next term target rest h =>
    simp only [h, List.cons.injEq, Except.ok.injEq, Prod.mk.injEq]
    constructor
    · rintro ⟨rfl, rfl⟩
      exact ⟨rfl, term, target, rest, ⟨rfl, rfl, rfl⟩, rfl⟩
    · rintro ⟨rfl, _, _, _, ⟨rfl, rfl, rfl⟩, rfl⟩
      exact ⟨rfl, rfl⟩
  · next h =>
    simp only [reduceCtorEq, false_iff]
    rintro ⟨-, term, target, rest, hargs, -⟩
    exact h term target rest hargs

theorem fieldsOf_eq_ok_iff {fields : Record Datum} :
    fieldsOf d = .ok fields ↔ d = .dict fields := by
  cases d <;> simp [fieldsOf]

theorem metaFigure_eq_ok_iff :
    r.metaFigure t c = .ok (d, c') ↔ c = c' ∧ ∃ figure url,
      t.argument?.getD (.dict []) = .dict figure ∧
        ((Datum.field? figure "url").orElse (.text "")).text? = some url ∧
          .text ("\n\n\\vskip 1.5ex\n\\includegraphics[width=" ++
            ((Datum.field? figure "width").orElse (.text r.figureWidth)).display ++ "]\x7b" ++
              Figure.printed url ++ "\x7d\n\\vskip 1.5ex") = d := by
  simp only [metaFigure, bind_eq_ok_iff, fieldsOf_eq_ok_iff]
  constructor
  · rintro ⟨figure, hfigure, h⟩
    cases hu : ((Datum.field? figure "url").orElse (.text "")).text? with
    | none => simp [hu] at h
    | some url =>
      simp only [hu, pure_eq_ok_iff, Prod.mk.injEq] at h
      exact ⟨h.2, figure, url, hfigure, hu, h.1⟩
  · rintro ⟨rfl, figure, url, hfigure, hu, rfl⟩
    exact ⟨figure, hfigure, by simp only [hu, pure_eq_ok_iff]⟩

def quoteFields? (t : Token) : Option (Record Datum) :=
  match (t.argument?.getD .null).orElse (.dict []) with
  | .dict fields => some fields
  | _ => none

theorem quotation_eq_ok_iff {quote : Record Datum} :
    quotation t = .ok quote ↔ quoteFields? t = some quote := by
  unfold quotation quoteFields?
  cases (t.argument?.getD .null).orElse (.dict []) <;> simp [fieldsOf]

/-- A quotation has the fields of its argument, or none if that is no record. -/
theorem argument?_of_quoteFields {quote : Record Datum} (h : quoteFields? t = some quote) :
    t.argument? = some (.dict quote) ∨
      quote = [] ∧ ∀ fields, t.argument? ≠ some (.dict fields) := by
  unfold quoteFields? at h
  cases ha : t.argument? with
  | none =>
    rw [ha] at h
    cases h
    exact .inr ⟨rfl, nofun⟩
  | some d =>
    rw [ha, Option.getD_some] at h
    cases ht : d.truthy with
    | true =>
      rw [Datum.orElse_of_truthy ht] at h
      cases d <;> simp_all
    | false =>
      rw [Datum.orElse_of_not_truthy ht] at h
      cases h
      cases d with
      | dict fields =>
        have hfields : fields = [] := by simpa [Datum.truthy] using ht
        exact .inl (by rw [hfields])
      | _ => exact .inr ⟨rfl, nofun⟩

theorem isEpigraph_of_quoteFields {quote : Record Datum} (h : quoteFields? t = some quote) :
    isEpigraph quote = t.isEpigraph := by
  unfold Token.isEpigraph isEpigraph
  rcases argument?_of_quoteFields h with ha | ⟨rfl, ha⟩
  · rw [ha]
  · split
    · next fields hfields => exact absurd hfields (ha fields)
    · rfl

theorem metaQuoteOpen_eq_ok_iff :
    metaQuoteOpen t c = .ok (d, c') ↔ ∃ quote, quoteFields? t = some quote ∧
      ((t.isEpigraph = true ∧ c.withQuote true = c' ∧
          .text "\n\n\\epigraphhead[30]\x7b\n\\epigraph\x7b\\hspace*\x7b-.1cm\x7d\\itshape``" = d) ∨
        (t.isEpigraph = false ∧ c = c' ∧ .text "\n\n\\begin\x7bquote\x7d" = d)) := by
  simp only [metaQuoteOpen, bind_eq_ok_iff, quotation_eq_ok_iff]
  refine exists_congr fun quote => and_congr_right fun hquote => ?_
  rw [isEpigraph_of_quoteFields hquote]
  cases t.isEpigraph <;> simp [pure_eq_ok_iff, and_comm]

theorem attribution_eq_ok_iff {quote : Record Datum} {s : String} :
    attribution quote = .ok s ↔
      ((Datum.field? quote "author").truthy = false ∧ "" = s) ∨
        ((Datum.field? quote "author").truthy = true ∧ ∃ author work,
          Latex.escapeDatum (Datum.field? quote "author") = .ok author ∧
            (((Datum.field? quote "title").truthy = false ∧ "" = work) ∨
              ((Datum.field? quote "title").truthy = true ∧ ∃ title,
                Latex.escapeDatum (Datum.field? quote "title") = .ok title ∧
                  ", " ++ title.display = work)) ∧
              "\n\x7b---" ++ author.display ++ work ++ "\x7d" = s) := by
  cases ha : (Datum.field? quote "author").truthy with
  | false => simp [attribution, ha, pure_eq_ok_iff]
  | true =>
    cases hauthor : Latex.escapeDatum (Datum.field? quote "author") with
    | error e => simp [attribution, ha, hauthor, bind, Except.bind]
    | ok author =>
      cases ht : (Datum.field? quote "title").truthy with
      | false => simp [attribution, ha, hauthor, ht, bind, Except.bind, pure, Except.pure]
      | true =>
        cases htitle : Latex.escapeDatum (Datum.field? quote "title") <;>
          simp [attribution, ha, hauthor, ht, htitle, bind, Except.bind, pure, Except.pure,
            Functor.map, Except.map]

theorem metaQuoteClose_eq_ok_iff :
    metaQuoteClose t c = .ok (d, c') ↔ c.withQuote false = c' ∧ ∃ quote s,
      quoteFields? t = some quote ∧ attribution quote = .ok s ∧
        .text (if t.isEpigraph then "''\x7d%" ++ s ++ "\n\x7d"
          else s ++ "\n\\end\x7bquote\x7d") = d := by
  simp only [metaQuoteClose, bind_eq_ok_iff, quotation_eq_ok_iff]
  constructor
  · rintro ⟨quote, hq, s, hs, h⟩
    rw [isEpigraph_of_quoteFields hq] at h
    cases he : t.isEpigraph <;>
      simp only [he, pure_eq_ok_iff, Bool.false_eq_true, if_false, if_true, Prod.mk.injEq] at h
    · exact ⟨h.2, quote, s, hq, hs, by simp [h.1]⟩
    · exact ⟨h.2, quote, s, hq, hs, by simp [h.1]⟩
  · rintro ⟨rfl, quote, s, hq, hs, rfl⟩
    refine ⟨quote, hq, s, hs, ?_⟩
    rw [isEpigraph_of_quoteFields hq]
    cases t.isEpigraph <;> simp [pure_eq_ok_iff]

/-- A text is numbered in a link to a chapter, and then escaped unless it is raw. -/
theorem text_eq_ok_iff :
    text t c = .ok (d, c') ↔ c = c' ∧ ∃ content, numbered c t.content = .ok content ∧
      (if c.raw then .ok content else Latex.escapeDatum content) = .ok d := by
  cases hn : numbered c t.content with
  | error e => simp [text, hn, bind, Except.bind]
  | ok content =>
    cases hraw : c.raw with
    | true => simp [text, hn, hraw, bind, Except.bind, pure, Except.pure, and_comm]
    | false =>
      cases hs : Latex.escapeDatum content <;>
        simp [text, hn, hraw, hs, bind, Except.bind, pure, Except.pure, and_comm]

end Renderer
end ChapterTex
