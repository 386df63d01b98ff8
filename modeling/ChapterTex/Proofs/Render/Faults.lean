import Mathlib.Control.Monad.Basic
import ChapterTex.Proofs.Render.Compose
import ChapterTex.Proofs.Token.Misfit

/-!
Failures of rendering. A rule takes the values of its token for what it needs, so a token whose
values do not suit its kind makes rendering fail without a report. There is no other cause of such a
failure.
-/
namespace ChapterTex

/-- Whether a figure is a record with an address. An absent address is empty. -/
def figureFits : Datum → Bool
  | .dict figure => ((Datum.field? figure "url").orElse (.text "")).text?.isSome
  | _ => false

/-- Whether author and title of a quotation can be escaped, as far as they are printed. -/
def attributionFits (quote : Record Datum) : Bool :=
  let author := Datum.field? quote "author"
  let title := Datum.field? quote "title"
  !author.truthy || (author.text?.isSome && (!title.truthy || title.text?.isSome))

def Token.fits (t : Token) : Bool :=
  match t.kind with
  | .headingOpen => t.tag.isKey
  | .fence => t.info.text?.any fun info => isHidden info || t.content.text?.isSome
  | .codeInline | .text => t.content.text?.isSome
  | .linkOpen => (((t.attr? "href").getD .null).orElse (.text "")).text?.isSome
  | .metaIndexsee => decide (2 ≤ t.args.length)
  | .metaFigure => figureFits (t.argument?.getD (.dict []))
  | .metaQuoteOpen => (Renderer.quoteFields? t).isSome
  | .metaQuoteClose => (Renderer.quoteFields? t).any attributionFits
  | _ => true

namespace Renderer
variable {r : Renderer} {t : Token} {tokens : List Token} {c : Context} {f : Failure}

theorem isKey_of_text? {d : Datum} {s : String} (h : d.text? = some s) : d.isKey = true := by
  rcases Datum.text?_eq_some_iff.mp h with rfl | rfl <;> rfl

theorem guarded_headingOpen : Guarded (t.tag.isKey = false) (r.headingOpen t c) := by
  unfold headingOpen
  split
  · next h1 => exact .ok (by simp [isKey_of_text? (eq_of_beq h1)])
  · split
    · next command h =>
      obtain ⟨tag, htag, -⟩ := Option.bind_eq_some_iff.mp h
      exact .ok (by simp [isKey_of_text? htag])
    · cases hkey : t.tag.isKey with
      | true => exact .report rfl
      | false => exact .fault rfl rfl

theorem guarded_quotation : Guarded ((quoteFields? t).isSome = false) (quotation t) := by
  unfold quotation quoteFields?
  cases (t.argument?.getD .null).orElse (.dict []) with
  | dict fields => exact .ok (by simp)
  | _ => exact .fault rfl rfl

theorem guarded_escapeDatum (d : Datum) :
    Guarded (d.text?.isSome = false) (Latex.escapeDatum d) := by
  cases d with
  | text s => exact .ok (by simp)
  | latex s => exact .ok (by simp)
  | _ => exact .fault rfl rfl

theorem guarded_attribution (quote : Record Datum) :
    Guarded (attributionFits quote = false) (attribution quote) := by
  unfold attribution attributionFits
  have hauthor := guarded_escapeDatum (Datum.field? quote "author")
  have htitle := guarded_escapeDatum (Datum.field? quote "title")
  dsimp only
  cases (Datum.field? quote "author").truthy with
  | false => exact .ok (by simp)
  | true =>
    cases (Datum.field? quote "title").truthy with
    | false => exact (hauthor.bind fun author _ => .ok id).congr (by simp)
    | true =>
      refine (hauthor.bind fun author _ => htitle.map.bind fun work _ => .ok id).congr ?_
      simp [Decidable.imp_iff_not_or]

theorem guarded_fence :
    Guarded ((t.info.text?.any fun info => isHidden info || t.content.text?.isSome) = false)
      (r.fence t c) := by
  unfold fence
  cases t.info.text? with
  | none => exact .fault rfl rfl
  | some info =>
    simp only [Option.any_some]
    cases isHidden info with
    | true => exact .ok (by simp)
    | false =>
      cases t.content.text? with
      | none => exact .fault rfl rfl
      | some code => exact .ok (by simp)

theorem guarded_codeInline : Guarded (t.content.text?.isSome = false) (codeInline t c) := by
  unfold codeInline
  cases t.content with
  | text s => exact .ok (by simp)
  | latex s => exact .ok (by simp)
  | _ => exact .fault rfl rfl

theorem guarded_linkOpen :
    Guarded ((((t.attr? "href").getD .null).orElse (.text "")).text?.isSome = false)
      (r.linkOpen t c) := by
  unfold linkOpen
  dsimp only
  cases (((t.attr? "href").getD .null).orElse (.text "")).text? with
  | none => exact .fault rfl rfl
  | some href =>
    dsimp only
    cases r.registry.resolve href with
    | none => exact .ok (by simp)
    | some link => exact .ok (by simp)

theorem guarded_metaIndexsee : Guarded (decide (2 ≤ t.args.length) = false) (metaIndexsee t c) := by
  unfold metaIndexsee
  rcases t.args with - | ⟨term, - | ⟨target, rest⟩⟩
  · exact .fault rfl rfl
  · exact .fault rfl rfl
  · exact .ok (by simp)

theorem guarded_metaFigure :
    Guarded (figureFits (t.argument?.getD (.dict [])) = false) (r.metaFigure t c) := by
  unfold metaFigure figureFits
  cases t.argument?.getD (.dict []) with
  | dict figure =>
    simp only [fieldsOf, bind, Except.bind]
    cases ((Datum.field? figure "url").orElse (.text "")).text? with
    | none => exact .fault rfl rfl
    | some url => exact .ok (by simp)
  | _ => exact .fault rfl rfl

theorem guarded_metaQuoteOpen : Guarded ((quoteFields? t).isSome = false) (metaQuoteOpen t c) := by
  unfold metaQuoteOpen
  refine (guarded_quotation.bind fun quote _ => ?_).congr (iff_of_eq (or_false _))
  split <;> exact .ok id

theorem guarded_metaQuoteClose :
    Guarded ((quoteFields? t).any attributionFits = false) (metaQuoteClose t c) := by
  unfold metaQuoteClose
  have hattribution : ∀ quote, quotation t = .ok quote →
      Guarded (∃ fields, quoteFields? t = some fields ∧ attributionFits fields = false)
        (attribution quote) := by
    intro quote hquote
    exact (guarded_attribution quote).congr (by simp [quotation_eq_ok_iff.mp hquote])
  refine (guarded_quotation.bind fun quote hquote =>
    (hattribution quote hquote).bind (q := False) fun s _ => ?_).congr ?_
  · split <;> exact .ok id
  · cases quoteFields? t <;> simp

theorem guarded_rule {next : Option Token} (hk : t.kind ≠ .text) :
    Guarded (t.fits = false) (r.rule t next c) := by
  cases hkind : t.kind <;> simp only [rule, hkind, Token.fits]
  -- Raw text is passed on as it is, so what the rule gives does not tell whether it suits.
  case text => exact absurd hkind hk
  case headingOpen => exact guarded_headingOpen
  case paragraphOpen =>
    unfold paragraphOpen
    split <;> exact .ok (by simp)
  case fence => exact guarded_fence
  case codeInline => exact guarded_codeInline
  case linkOpen => exact guarded_linkOpen
  case metaIndexsee => exact guarded_metaIndexsee
  case metaFigure => exact guarded_metaFigure
  case metaQuoteOpen => exact guarded_metaQuoteOpen
  case metaQuoteClose => exact guarded_metaQuoteClose
  all_goals exact .ok (by simp)

theorem isValueFault_of_text (h : text t c = .error f) :
    f.isValueFault = true ∧ t.content.text? = none := by
  unfold text numbered at h
  obtain ⟨raw, quote, link⟩ := c
  cases hcontent : t.content <;> cases link <;> cases raw <;> rw [hcontent] at h <;> cases h <;>
    exact ⟨rfl, rfl⟩

/-- A step of a run fails exactly if the values of its token do not suit, or with a report. -/
theorem guarded_emit (v : Visit) : Guarded (v.token.fits = false) (r.emit v c) := by
  by_cases hk : v.token.kind = .text
  · have hrule : r.rule v.token v.next c = text v.token c := by simp only [rule, hk]
    simp only [emit, hrule, Token.fits, hk]
    cases htext : text v.token c with
    | error f =>
      obtain ⟨hf, hnone⟩ := isValueFault_of_text htext
      exact .fault hf (by simp [hnone])
    | ok p =>
      rw [← isSome_text?_of_text htext]
      dsimp only
      cases p.1.text? with
      | none => exact .fault rfl rfl
      | some s => exact .ok (by simp)
  · have hguarded : Guarded (v.token.fits = false) (r.rule v.token v.next c) := guarded_rule hk
    unfold emit
    cases hrule : r.rule v.token v.next c with
    | error f =>
      exact .error (hguarded.fails hrule)
    | ok p =>
      obtain ⟨s, hs⟩ := Option.isSome_iff_exists.mp (isSome_text?_of_rule hk hrule)
      simp only [hs]
      exact .ok (hguarded.suits hrule)

theorem fits_of_renderFrom {out : String} {c' : Context}
    (h : r.renderFrom tokens c = .ok (out, c')) :
    ∀ t ∈ Token.leaves tokens, t.fits = true := by
  obtain ⟨es, hes, -⟩ := renderFrom_eq_ok_iff_emissions.mp h
  intro t ht
  rw [Token.leaves, ← map_token_of_emitAll hes] at ht
  obtain ⟨e, he, rfl⟩ := List.mem_map.mp ht
  obtain ⟨next, piece, c₁, hrule, htext⟩ := rule_of_mem_emitAll hes he
  have hemit : r.emit ⟨e.token, next⟩ e.before = .ok (e, c₁) :=
    emit_eq_ok_iff.mpr ⟨rfl, rfl, piece, hrule, htext⟩
  simpa using (guarded_emit ⟨e.token, next⟩).suits hemit

/-- Where a stream fails: at its first token, whose text may turn out to be none, or behind it. -/
theorem renderFrom_cons_error {rest : List Token} (h : r.renderFrom (t :: rest) c = .error f) :
    r.renderToken t rest.head? c = .error f ∨
      (∃ d c₁, r.renderToken t rest.head? c = .ok (d, c₁) ∧ d.text? = none ∧ f = .wrongKind) ∨
        ∃ c₁, r.renderFrom rest c₁ = .error f := by
  cases ht : r.renderToken t rest.head? c with
  | error e =>
    simp only [renderFrom, pieces, ht] at h
    cases h
    exact .inl rfl
  | ok p =>
    obtain ⟨d, c₁⟩ := p
    right
    cases hrest : r.pieces rest c₁ with
    | error e =>
      simp only [renderFrom, pieces, ht, hrest] at h
      cases h
      exact .inr ⟨c₁, by simp only [renderFrom, hrest]⟩
    | ok q =>
      obtain ⟨parts, c₂⟩ := q
      simp only [renderFrom, pieces, ht, hrest, join] at h
      cases hd : d.text? with
      | none =>
        rw [hd] at h
        cases h
        exact .inl ⟨d, c₁, rfl, hd, rfl⟩
      | some s =>
        rw [hd] at h
        cases hjoin : join parts with
        | error e =>
          rw [hjoin] at h
          cases h
          exact .inr ⟨c₁, by simp only [renderFrom, hrest, hjoin]; rfl⟩
        | ok out =>
          rw [hjoin] at h
          cases h

theorem fails_of_renderFrom (h : r.renderFrom tokens c = .error f) :
    f.Excused (∃ t ∈ Token.leaves tokens, t.fits = false) := by
  induction tokens using Token.stream_induction generalizing c with
  | nil => cases h
  | inline t rest hk ihc ihr =>
    rw [Token.leaves_cons_inline hk]
    simp only [List.mem_append, or_and_right, exists_or]
    -- The text of an inline token is one, so it cannot fail to be joined.
    rcases renderFrom_cons_error h with ht | ⟨d, c₁, ht, hd, -⟩ | ⟨c₁, hrest⟩
    · rw [renderToken_inline hk] at ht
      cases hchildren : r.renderFrom t.children c with
      | error e =>
        rw [hchildren] at ht
        cases ht
        exact (ihc hchildren).mono .inl
      | ok p =>
        rw [hchildren] at ht
        cases ht
    · obtain ⟨s, -, rfl⟩ := (renderToken_inline_eq_ok_iff hk).mp ht
      cases hd
    · exact (ihr hrest).mono .inr
  | leaf t rest hk ih =>
    rw [Token.leaves_cons_leaf hk]
    simp only [List.mem_cons, exists_eq_or_imp]
    have hstep : r.emit ⟨t, rest.head?⟩ c = .error f →
        f.Excused (t.fits = false ∨ ∃ u ∈ Token.leaves rest, u.fits = false) :=
      fun he => ((guarded_emit _).fails he).mono .inl
    rcases renderFrom_cons_error h with ht | ⟨d, c₁, ht, hd, rfl⟩ | ⟨c₁, hrest⟩
    · rw [renderToken_leaf hk] at ht
      exact hstep (by simp only [emit, ht])
    · rw [renderToken_leaf hk] at ht
      exact hstep (by simp only [emit, ht, hd])
    · exact (ih hrest).mono .inr

/-- Rendering fails if the values of a token do not suit, and else only with a report. -/
theorem guarded_renderFrom :
    Guarded (∃ t ∈ Token.leaves tokens, t.fits = false) (r.renderFrom tokens c) := by
  constructor
  · rintro ⟨out, c'⟩ h ⟨t, ht, hfits⟩
    rw [fits_of_renderFrom h t ht] at hfits
    cases hfits
  · exact fails_of_renderFrom

/-- A text whose integers are short enough, whose objects can all be gone through, and whose tokens
all have values that suit, is loaded and rendered, or a failure is reported. Any other text fails,
and that without a report unless another failure comes first. Nothing is said of a text that escapes
half of a surrogate pair. -/
theorem load_render_guarded (r : Renderer) (text : String)
    (hpaired : Json.parse text ≠ .error .halfPair) :
    Guarded (Token.MisfitText text ∨
        ∃ tokens, Token.load text = .ok tokens ∧ ∃ t ∈ Token.leaves tokens, t.fits = false)
      (Token.load text >>= r.render) := by
  refine (Token.guarded_load hpaired).bind fun tokens htokens => ?_
  have hrender : Guarded (∃ t ∈ Token.leaves tokens, t.fits = false) (r.render tokens) :=
    guarded_renderFrom.map
  exact hrender.congr (by simp [htokens])

/-- A token whose arguments are a number. -/
def numberSource : String := "[\x7b\"type\": \"text\", \"args\": 5\x7d]"

theorem load_render_guarded_number :
    Json.parse numberSource ≠ .error .halfPair ∧
      (Token.load numberSource >>=
        render { registry := Book.Registry.ofList [], chapter := "basics" }) = .error .wrongKind ∧
      Token.MisfitText numberSource := by
  have hfails : (Token.load numberSource >>=
      render { registry := Book.Registry.ofList [], chapter := "basics" }) = .error .wrongKind := by
    decide +kernel
  have hpaired : Json.parse numberSource ≠ .error .halfPair := by
    intro h
    simp only [Token.load, h] at hfails
    cases hfails
  have hload : (Token.load numberSource).toOption.isSome = false := by decide +kernel
  refine ⟨hpaired, hfails, ?_⟩
  rcases (load_render_guarded _ numberSource hpaired).fails hfails with hreported | ⟨-, hmisfit⟩
  · cases hreported
  · -- The text is not loaded at all, so no token of it is the misfit.
    refine hmisfit.resolve_right ?_
    rintro ⟨tokens, htokens, -⟩
    rw [htokens] at hload
    cases hload

/-- The other failures without a report occur as well: at a figure that is a number, and at a
reference to an index entry without arguments. -/
example : ∀ p ∈ [("[\x7b\"type\": \"meta_figure\", \"args\": [5]\x7d]", Failure.noSuchPart),
      ("[\x7b\"type\": \"meta_indexsee\"\x7d]", .missingArgument)],
    (Token.load p.1 >>= render { registry := Book.Registry.ofList [], chapter := "basics" }) =
      .error p.2 := by
  decide +kernel

end Renderer
end ChapterTex
