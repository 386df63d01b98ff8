import ChapterTex.Proofs.Defect
import ChapterTex.Proofs.Record
import ChapterTex.Proofs.Render.Faults

/-!
Defects of tokens. Where the fields of the tokens are texts, only headings, references of the index,
figures and quotations can fail, and it is their own values alone that decide whether they do.
-/
namespace ChapterTex

def Datum.IsNoText (d : Datum) : Prop := d.truthy = true ∧ d.text? = none

namespace Token

/-- The fields of a token are texts, and so are its attributes. -/
structure Textual (t : Token) : Prop where
  tag : t.tag.text?.isSome = true
  content : t.content.text?.isSome = true
  info : t.info.text?.isSome = true
  attrs : ∀ a ∈ t.attrs, a.2.text?.isSome = true

instance (t : Token) : Decidable t.Textual :=
  decidable_of_iff (t.tag.text?.isSome = true ∧ t.content.text?.isSome = true ∧
      t.info.text?.isSome = true ∧ ∀ a ∈ t.attrs, a.2.text?.isSome = true)
    ⟨fun ⟨tag, content, info, attrs⟩ => ⟨tag, content, info, attrs⟩,
    fun h => ⟨h.tag, h.content, h.info, h.attrs⟩⟩

/-- The first argument is there and is no record, or its address is no text. -/
def BadFigure (t : Token) : Prop :=
  ∃ d, t.argument? = some d ∧ ((∀ figure, d ≠ .dict figure) ∨
    ∃ figure, d = .dict figure ∧ (Datum.field? figure "url").IsNoText)

/-- The first argument counts as present and is no record. -/
def BadQuotation (t : Token) : Prop :=
  ∃ d, t.argument? = some d ∧ d.truthy = true ∧ ∀ fields, d ≠ .dict fields

/-- The author is no text, or there is an author, and the title is no text. -/
def BadAttribution (quote : Record Datum) : Prop :=
  (Datum.field? quote "author").IsNoText ∨
    ((Datum.field? quote "author").truthy = true ∧ (Datum.field? quote "title").IsNoText)

/-- What is wrong with a token whose fields are texts, with the failure that this causes. -/
def Defect (t : Token) (f : Failure) : Prop :=
  match t.kind with
  | .headingOpen => ∃ tag, t.tag.text? = some tag ∧ tag ∉ ["h1", "h2", "h3", "h4"] ∧
      f = .unsupportedHeading tag
  | .metaIndexsee => t.args.length < 2 ∧ f = .missingArgument
  | .metaFigure => t.BadFigure ∧ f = .noSuchPart
  | .metaQuoteOpen => t.BadQuotation ∧ f = .noSuchPart
  | .metaQuoteClose => (t.BadQuotation ∧ f = .noSuchPart) ∨
      ((∃ quote, t.argument? = some (.dict quote) ∧ BadAttribution quote) ∧ f = .wrongKind)
  | _ => False

end Token

namespace Renderer
variable {r : Renderer} {t : Token} {tokens : List Token} {c : Context}

theorem isSome_sectionCommand?_iff {tag : String} :
    (sectionCommand? tag).isSome = true ↔ tag ∈ ["h2", "h3", "h4"] := by
  unfold sectionCommand?
  by_cases h2 : tag = "h2"
  · simp [h2]
  by_cases h3 : tag = "h3"
  · simp [h3]
  by_cases h4 : tag = "h4"
  · simp [h4]
  simp [h2, h3, h4]

theorem failsAs_headingOpen {tag : String} (ht : t.tag.text? = some tag) :
    FailsAs (r.headingOpen t c) fun f =>
      tag ∉ ["h1", "h2", "h3", "h4"] ∧ f = .unsupportedHeading tag := by
  unfold headingOpen
  rw [ht, Option.bind_some, List.mem_cons, ← isSome_sectionCommand?_iff, isKey_of_text? ht,
    Datum.display_eq_of_text? ht]
  by_cases h1 : tag = "h1"
  · rw [if_pos (by simp [h1])]
    exact .ok (by simp [h1])
  · rw [if_neg (by simp [h1])]
    cases sectionCommand? tag with
    | some command => exact .ok (by simp)
    | none => exact .error (by simp [h1])

theorem failsAs_metaIndexsee :
    FailsAs (metaIndexsee t c) fun f => t.args.length < 2 ∧ f = .missingArgument := by
  unfold metaIndexsee
  rcases t.args with - | ⟨term, - | ⟨target, rest⟩⟩
  · exact .error (by simp)
  · exact .error (by simp)
  · exact .ok (by simp)

/-- A field that may be absent is a text or none, unless it is there and is no text. -/
theorem text?_orElse_eq_none_iff {d : Datum} : (d.orElse (.text "")).text? = none ↔ d.IsNoText := by
  unfold Datum.orElse Datum.IsNoText
  cases d.truthy <;> simp

theorem failsAs_metaFigure :
    FailsAs (r.metaFigure t c) fun f => t.BadFigure ∧ f = .noSuchPart := by
  unfold metaFigure Token.BadFigure
  cases t.argument? with
  | none => exact .ok (by simp)
  | some d =>
    simp only [Option.getD_some, Option.some.injEq, exists_eq_left']
    cases d with
    | dict figure =>
      simp only [fieldsOf, bind, Except.bind]
      have hnone := text?_orElse_eq_none_iff (d := Datum.field? figure "url")
      cases hurl : ((Datum.field? figure "url").orElse (.text "")).text? with
      | none => exact .error (by simp [hnone.mp hurl])
      | some url =>
        rw [hurl] at hnone
        exact .ok (by simpa using hnone)
    | _ => exact .error (by simp)

theorem failsAs_quotation : FailsAs (quotation t) fun f => t.BadQuotation ∧ f = .noSuchPart := by
  unfold quotation Token.BadQuotation
  cases t.argument? with
  | none => exact .ok (by simp)
  | some d =>
    simp only [Option.getD_some, Option.some.injEq, exists_eq_left', Datum.orElse]
    cases htruthy : d.truthy with
    | false => exact .ok (by simp)
    | true =>
      cases d with
      | dict fields => exact .ok (by simp)
      | _ => exact .error (by simp)

theorem failsAs_escapeDatum (d : Datum) :
    FailsAs (Latex.escapeDatum d) fun f => d.text? = none ∧ f = .wrongKind := by
  cases d with
  | text s => exact .ok (by simp)
  | latex s => exact .ok (by simp)
  | _ => exact .error (by simp [Datum.text?])

theorem failsAs_attribution (quote : Record Datum) :
    FailsAs (attribution quote) fun f => Token.BadAttribution quote ∧ f = .wrongKind := by
  unfold attribution Token.BadAttribution Datum.IsNoText
  have hauthor := failsAs_escapeDatum (Datum.field? quote "author")
  have htitle := failsAs_escapeDatum (Datum.field? quote "title")
  dsimp only
  cases (Datum.field? quote "author").truthy with
  | false => exact .ok (by simp)
  | true =>
    cases (Datum.field? quote "title").truthy with
    | false =>
      refine (hauthor.bind fun author _ => FailsAs.succeeds).congr ?_
      simp
    | true =>
      refine (hauthor.bind fun author _ => htitle.map.bind fun work _ =>
        FailsAs.succeeds).congr ?_
      simp [thenFails_same]

theorem failsAs_metaQuoteOpen :
    FailsAs (metaQuoteOpen t c) fun f => t.BadQuotation ∧ f = .noSuchPart := by
  unfold metaQuoteOpen
  refine (failsAs_quotation.bind (q := fun _ => False) fun quote _ => ?_).congr (by simp)
  split <;> exact .succeeds

/-- An absent quotation has neither author nor title, so its attribution is not bad. -/
theorem exists_badAttribution_iff {quote : Record Datum} (h : quotation t = .ok quote) :
    (∃ fields, t.argument? = some (.dict fields) ∧ Token.BadAttribution fields) ↔
      Token.BadAttribution quote := by
  rcases argument?_of_quoteFields (quotation_eq_ok_iff.mp h) with ha | ⟨rfl, ha⟩
  · simp [ha]
  · have hnone : ¬ Token.BadAttribution [] := by
      simp [Token.BadAttribution, Datum.IsNoText, Datum.field?, Datum.truthy]
    simp [ha, hnone]

theorem failsAs_metaQuoteClose :
    FailsAs (metaQuoteClose t c) fun f => (t.BadQuotation ∧ f = .noSuchPart) ∨
      (∃ quote, t.argument? = some (.dict quote) ∧ Token.BadAttribution quote) ∧
        f = .wrongKind := by
  have hfails : FailsAs (metaQuoteClose t c) (ThenFails (fun f => t.BadQuotation ∧ f = .noSuchPart)
      fun f => (∃ quote, t.argument? = some (.dict quote) ∧ Token.BadAttribution quote) ∧
        f = .wrongKind) := by
    unfold metaQuoteClose
    refine failsAs_quotation.bind fun quote hquote => ?_
    rw [exists_badAttribution_iff hquote]
    refine ((failsAs_attribution quote).bind (q := fun _ => False) fun s _ => ?_).congr (by simp)
    split <;> exact .succeeds
  refine hfails.congr fun f => or_congr_right (and_iff_right_of_imp ?_)
  -- A quotation with an attribution is a record.
  rintro ⟨⟨quote, hquote, -⟩, -⟩ e ⟨⟨d, hd, -, hrecord⟩, -⟩
  exact hrecord quote (Option.some.inj (hd.symm.trans hquote))

/-! Tokens whose fields are texts. -/

theorem isSome_text?_orElse {d : Datum} (h : d.text?.isSome = true) :
    (d.orElse (.text "")).text?.isSome = true := by
  unfold Datum.orElse
  cases d.truthy
  · rfl
  · exact h

theorem failsAs_fence (ht : t.Textual) : FailsAs (r.fence t c) fun _ => False := by
  obtain ⟨info, hinfo⟩ := Option.isSome_iff_exists.mp ht.info
  obtain ⟨content, hcontent⟩ := Option.isSome_iff_exists.mp ht.content
  unfold fence
  simp only [hinfo, hcontent]
  split <;> exact .succeeds

theorem failsAs_codeInline (ht : t.Textual) : FailsAs (codeInline t c) fun _ => False := by
  obtain ⟨content, hcontent⟩ := Option.isSome_iff_exists.mp ht.content
  unfold codeInline
  rcases Datum.text?_eq_some_iff.mp hcontent with h | h <;> rw [h] <;> exact .succeeds

theorem failsAs_linkOpen (ht : t.Textual) : FailsAs (r.linkOpen t c) fun _ => False := by
  have htarget : (((t.attr? "href").getD .null).orElse (.text "")).text?.isSome = true := by
    cases hhref : t.attr? "href" with
    | none => rfl
    | some d => exact isSome_text?_orElse (ht.attrs _ (Record.mem_of_get? hhref))
  obtain ⟨href, hhref⟩ := Option.isSome_iff_exists.mp htarget
  unfold linkOpen
  simp only [hhref]
  split <;> exact .succeeds

theorem failsAs_text (ht : t.Textual) : FailsAs (text t c) fun _ => False := by
  obtain ⟨content, hcontent⟩ := Option.isSome_iff_exists.mp ht.content
  obtain ⟨raw, quote, link⟩ := c
  unfold text numbered
  rcases Datum.text?_eq_some_iff.mp hcontent with h | h <;> rw [h] <;> cases link <;> cases raw <;>
    exact .succeeds

theorem failsAs_rule (ht : t.Textual) (next : Option Token) :
    FailsAs (r.rule t next c) t.Defect := by
  obtain ⟨tag, htag⟩ := Option.isSome_iff_exists.mp ht.tag
  intro f
  cases hk : t.kind <;> simp only [rule, hk, Token.Defect]
  case headingOpen => simpa [htag] using failsAs_headingOpen htag f
  case paragraphOpen =>
    unfold paragraphOpen
    split <;> exact FailsAs.succeeds f
  case fence => exact failsAs_fence ht f
  case codeInline => exact failsAs_codeInline ht f
  case linkOpen => exact failsAs_linkOpen ht f
  case text => exact failsAs_text ht f
  case metaIndexsee => exact failsAs_metaIndexsee f
  case metaFigure => exact failsAs_metaFigure f
  case metaQuoteOpen => exact failsAs_metaQuoteOpen f
  case metaQuoteClose => exact failsAs_metaQuoteClose f
  all_goals exact FailsAs.succeeds f

/-- A stream of tokens whose fields are texts fails at the first defect. -/
theorem failsAs_renderFrom (ht : ∀ t ∈ Token.leaves tokens, t.Textual) :
    FailsAs (r.renderFrom tokens c) (FirstDefect Token.Defect (Token.leaves tokens)) := by
  induction tokens using Token.stream_induction generalizing c with
  | nil => exact .ok (by simp)
  | inline t rest hk ihc ihr =>
    rw [Token.leaves_cons_inline hk, List.forall_mem_append] at ht
    rw [Token.leaves_cons_inline hk, firstDefect_append, renderFrom_cons_inline hk]
    exact (ihc ht.1).bind fun p _ => (ihr ht.2).map
  | leaf t rest hk ih =>
    rw [Token.leaves_cons_leaf hk, List.forall_mem_cons] at ht
    have hcontent : t.kind = .text → t.content.text?.isSome = true := fun _ => ht.1.content
    rw [Token.leaves_cons_leaf hk, firstDefect_cons, renderFrom_cons_leaf hk hcontent]
    exact (failsAs_rule ht.1 _).bind fun p _ => (ih ht.2).map

/-- Rendering fails exactly if a token on the walk has a defect, and then with the failure of the
first one. Neither the book and the chapter nor the modes have a part in that. -/
theorem rendering_fails_at_first_defect (ht : ∀ t ∈ Token.leaves tokens, t.Textual) (r : Renderer)
    (c : Context) :
    (∀ f, r.renderFrom tokens c = .error f ↔ FirstDefect Token.Defect (Token.leaves tokens) f) ∧
      ((∃ p, r.renderFrom tokens c = .ok p) ↔ ∀ t ∈ Token.leaves tokens, ∀ f, ¬ t.Defect f) ∧
      ∀ (r' : Renderer) (c' : Context) (f : Failure),
        r.renderFrom tokens c = .error f ↔ r'.renderFrom tokens c' = .error f := by
  have hfails : FailsAs (r.renderFrom tokens c) _ := failsAs_renderFrom ht
  refine ⟨hfails, hfails.exists_ok_iff.trans not_firstDefect_iff, fun r' c' f => ?_⟩
  rw [hfails f, failsAs_renderFrom ht f]

/-- A figure without a proper address inside of an inline token, in front of a heading that has no
command. -/
def defectiveTokens : List Token :=
  [{ kind := .headingOpen, tag := .text "h4" },
   { kind := .inline
     children := [{ kind := .linkOpen, attrs := [("href", .text "basics")] },
                  { kind := .metaFigure, args := [.dict [("url", .list [.null])]] }] },
   { kind := .headingOpen, tag := .text "h5" }]

theorem rendering_fails_at_first_defect_figure :
    (∀ t ∈ Token.leaves defectiveTokens, t.Textual) ∧
      FirstDefect Token.Defect (Token.leaves defectiveTokens) .noSuchPart ∧
      ∀ (r : Renderer) (c : Context), r.renderFrom defectiveTokens c = .error .noSuchPart := by
  have htexts : ∀ t ∈ Token.leaves defectiveTokens, t.Textual := by decide +kernel
  have hfirst : FirstDefect Token.Defect (Token.leaves defectiveTokens) .noSuchPart := by
    refine ⟨_ :: [_], _, [_], rfl, ⟨⟨_, rfl, .inr ⟨_, rfl, rfl, rfl⟩⟩, rfl⟩, ?_⟩
    simp [Token.Defect, Datum.text?]
  exact ⟨htexts, hfirst, fun r c => ((rendering_fails_at_first_defect htexts r c).1 _).mpr hfirst⟩

end Renderer
end ChapterTex
