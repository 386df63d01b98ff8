import ChapterTex.Proofs.Render.Rules
import ChapterTex.Proofs.Render.Walk

/-!
Rendering token by token. Where text tokens hold texts, a token renders before the rest of its
stream, failures included, and only the end of a table cell looks at what comes next.
-/
namespace ChapterTex

def Token.HoldTexts (tokens : List Token) : Prop :=
  ∀ t ∈ leaves tokens, t.kind = .text → t.content.text?.isSome = true

instance (tokens : List Token) : Decidable (Token.HoldTexts tokens) :=
  inferInstanceAs (Decidable (∀ t ∈ Token.leaves tokens, _))

namespace Token.HoldTexts
variable {t : Token} {rest : List Token}

theorem head (h : HoldTexts (t :: rest)) (ht : t.kind = .text) : t.content.text?.isSome = true := by
  refine h t (mem_leaves_iff.mpr ⟨t, List.mem_cons_self, .inr ⟨?_, rfl⟩⟩) ht
  rw [ht]
  decide

theorem tail (h : HoldTexts (t :: rest)) : HoldTexts rest := by
  intro u hu
  obtain ⟨v, hv, huv⟩ := mem_leaves_iff.mp hu
  exact h u (mem_leaves_iff.mpr ⟨v, List.mem_cons_of_mem t hv, huv⟩)

theorem children (h : HoldTexts (t :: rest)) (hk : t.kind = .inline) : HoldTexts t.children := by
  intro u hu
  exact h u (mem_leaves_iff.mpr ⟨t, List.mem_cons_self, .inl ⟨hk, hu⟩⟩)

end Token.HoldTexts

namespace Renderer
variable {r : Renderer} {t : Token} {c c' : Context} {d : Datum}

/-- What is printed for a text token is a text exactly if its content is. -/
theorem isSome_text?_of_text (h : text t c = .ok (d, c')) :
    d.text?.isSome = t.content.text?.isSome := by
  obtain ⟨-, content, hn, hd⟩ := text_eq_ok_iff.mp h
  have hcontent : content.text?.isSome = t.content.text?.isSome := by
    unfold numbered at hn
    split at hn
    · cases hn
      rfl
    · split at hn
      · next s hs =>
        cases hn
        rw [hs]
        rfl
      · cases hn
  rw [← hcontent]
  cases hraw : c.raw with
  | true =>
    rw [hraw, if_pos rfl] at hd
    cases hd
    rfl
  | false =>
    rw [hraw, if_neg Bool.false_ne_true] at hd
    cases content <;> simp only [Latex.escapeDatum, reduceCtorEq] at hd <;> cases hd <;> rfl

/-- All other tokens print texts. -/
theorem isSome_text?_of_rule {next : Option Token} (hk : t.kind ≠ .text)
    (h : r.rule t next c = .ok (d, c')) : d.text?.isSome = true := by
  cases hkind : t.kind <;> simp only [rule, hkind] at h
  case text => exact absurd hkind hk
  case paragraphOpen =>
    obtain ⟨rfl, -⟩ := paragraphOpen_eq_ok_iff.mp h
    rfl
  case headingOpen =>
    obtain ⟨-, ⟨-, rfl⟩ | ⟨tag, command, -, -, rfl⟩⟩ := headingOpen_eq_ok_iff.mp h <;> rfl
  case fence =>
    obtain ⟨-, info, -, ⟨-, rfl⟩ | ⟨-, code, -, rfl⟩⟩ := fence_eq_ok_iff.mp h <;> rfl
  case codeInline =>
    obtain ⟨-, code, -, rfl⟩ := codeInline_eq_ok_iff.mp h
    rfl
  case linkOpen =>
    obtain ⟨href, -, ⟨-, rfl, -⟩ | ⟨link, -, rfl, -⟩⟩ := linkOpen_eq_ok_iff.mp h <;> rfl
  case metaIndexsee =>
    obtain ⟨-, term, target, rest, -, rfl⟩ := metaIndexsee_eq_ok_iff.mp h
    rfl
  case metaFigure =>
    obtain ⟨-, figure, url, -, -, rfl⟩ := metaFigure_eq_ok_iff.mp h
    rfl
  case metaQuoteOpen =>
    obtain ⟨quote, -, ⟨-, -, rfl⟩ | ⟨-, -, rfl⟩⟩ := metaQuoteOpen_eq_ok_iff.mp h <;> rfl
  case metaQuoteClose =>
    obtain ⟨-, quote, s, -, -, rfl⟩ := metaQuoteClose_eq_ok_iff.mp h
    rfl
  all_goals
    cases h
    rfl

theorem text?_of_rule {next : Option Token} (ht : t.kind = .text → t.content.text?.isSome = true)
    (h : r.rule t next c = .ok (d, c')) : d.text? = some d.display := by
  have hsome : d.text?.isSome = true := by
    by_cases hk : t.kind = .text
    · simp only [rule, hk] at h
      rw [isSome_text?_of_text h]
      exact ht hk
    · exact isSome_text?_of_rule hk h
  obtain ⟨s, hs⟩ := Option.isSome_iff_exists.mp hsome
  rw [hs, Datum.display_eq_of_text? hs]

theorem text?_of_renderToken {next : Option Token}
    (ht : t.kind = .text → t.content.text?.isSome = true)
    (h : r.renderToken t next c = .ok (d, c')) : d.text? = some d.display := by
  by_cases hk : t.kind = .inline
  · obtain ⟨s, -, rfl⟩ := (renderToken_inline_eq_ok_iff hk).mp h
    rfl
  · rw [renderToken_leaf hk] at h
    exact text?_of_rule ht h

/-- Only the end of a cell looks at the token behind it, and only at whether it opens a cell. -/
theorem rule_congr_next {next next' : Option Token}
    (h : t.kind.isCellClose = true → next.any Token.isCellOpen = next'.any Token.isCellOpen)
    (c : Context) : r.rule t next c = r.rule t next' c := by
  cases hk : t.kind <;> simp only [rule, hk]
  case thClose => simp only [cellClose, h (by rw [hk]; rfl)]
  case tdClose => simp only [cellClose, h (by rw [hk]; rfl)]

theorem renderToken_congr_next {next next' : Option Token}
    (h : t.kind.isCellClose = true → next.any Token.isCellOpen = next'.any Token.isCellOpen)
    (c : Context) : r.renderToken t next c = r.renderToken t next' c := by
  by_cases hk : t.kind = .inline
  · rw [renderToken_inline hk, renderToken_inline hk]
  · rw [renderToken_leaf hk, renderToken_leaf hk, rule_congr_next h]

def prepend (s : String) (x : Except Failure (String × Context)) :
    Except Failure (String × Context) :=
  (fun p => (s ++ p.1, p.2)) <$> x

@[simp] theorem prepend_error (s : String) (f : Failure) : prepend s (.error f) = .error f := rfl

@[simp] theorem prepend_ok (s out : String) (c : Context) :
    prepend s (.ok (out, c)) = .ok (s ++ out, c) := rfl

@[simp] theorem prepend_empty (x : Except Failure (String × Context)) : prepend "" x = x := by
  cases x with
  | error f => rfl
  | ok p => simp [prepend, Functor.map, Except.map]

theorem prepend_eq_error_iff {s : String} {x : Except Failure (String × Context)} {f : Failure} :
    prepend s x = .error f ↔ x = .error f := by
  cases x <;> simp [prepend, Functor.map, Except.map]

theorem prepend_prepend (s u : String) (x : Except Failure (String × Context)) :
    prepend s (prepend u x) = prepend (s ++ u) x := by
  cases x with
  | error f => rfl
  | ok p => simp [prepend, Functor.map, Except.map, String.append_assoc]

@[simp] theorem renderFrom_nil (c : Context) : r.renderFrom [] c = .ok ("", c) := rfl

/-- A token that is no text, or holds one, renders before the rest of its stream. -/
theorem renderFrom_cons {rest : List Token} (ht : t.kind = .text → t.content.text?.isSome = true) :
    r.renderFrom (t :: rest) c =
      r.renderToken t rest.head? c >>= fun p => prepend p.1.display (r.renderFrom rest p.2) := by
  cases hp : r.renderToken t rest.head? c with
  | error f => simp [renderFrom, pieces, hp, bind, Except.bind]
  | ok p =>
    obtain ⟨d, c₁⟩ := p
    have hd := text?_of_renderToken ht hp
    cases hrest : r.pieces rest c₁ with
    | error f => simp [renderFrom, pieces, hp, hrest, bind, Except.bind]
    | ok q =>
      obtain ⟨parts, c₂⟩ := q
      simp only [renderFrom, pieces, hp, hrest, join, hd, bind, Except.bind]
      cases join parts <;> rfl

theorem renderFrom_cons_inline {rest : List Token} (hk : t.kind = .inline) :
    r.renderFrom (t :: rest) c =
      r.renderFrom t.children c >>= fun p => prepend p.1 (r.renderFrom rest p.2) := by
  rw [renderFrom_cons (by simp [hk]), renderToken_inline hk]
  cases r.renderFrom t.children c <;> rfl

theorem renderFrom_cons_leaf {rest : List Token} (hk : t.kind ≠ .inline)
    (ht : t.kind = .text → t.content.text?.isSome = true) :
    r.renderFrom (t :: rest) c =
      r.rule t rest.head? c >>= fun p => prepend p.1.display (r.renderFrom rest p.2) := by
  rw [renderFrom_cons ht, renderToken_leaf hk]

end Renderer
end ChapterTex
