import Mathlib.Data.List.Chain
import ChapterTex.Proofs.Render.Sequence
import ChapterTex.Proofs.Render.Silent

/-!
Normal forms of streams. The normal form of a stream holds neither inline tokens nor tokens without
an effect. A stream and its normal form render alike, if no table cell ends in front of a token that
the normal form leaves out.
-/
namespace ChapterTex
namespace Token

mutual

def prunedToken : Token → Token
  | ⟨kind, tag, content, attrs, args, children, info, hashId⟩ =>
    ⟨kind, tag, content, attrs, args, pruned children, info, hashId⟩

/-- A stream without its idle tokens, at any depth. -/
def pruned : List Token → List Token
  | [] => []
  | t :: rest => if t.isIdle then pruned rest else prunedToken t :: pruned rest

end

mutual

/-- What a token is replaced by: an inline token by its children, any other by itself. -/
def splicedToken : Token → List Token
  | ⟨kind, tag, content, attrs, args, children, info, hashId⟩ =>
    if kind = .inline then spliced children
    else [⟨kind, tag, content, attrs, args, spliced children, info, hashId⟩]

/-- A stream with the children of its inline tokens in their place, at any depth. -/
def spliced : List Token → List Token
  | [] => []
  | t :: rest => splicedToken t ++ spliced rest

end

def normalForm (tokens : List Token) : List Token := spliced (pruned tokens)

/-- Streams that render like their normal form. Cells do not end inside of inline tokens, nor in
front of a token that the normal form takes away. -/
structure Normalizable (tokens : List Token) : Prop where
  texts : HoldTexts tokens
  cells : ∀ t ∈ tokens, t.kind = .inline → ∀ u ∈ leaves t.children, u.kind.isCellClose = false
  ends : tokens.IsChain fun t u => t.kind.isCellClose = true → u.kind ≠ .inline ∧ u.isIdle = false

instance (tokens : List Token) : Decidable (Normalizable tokens) :=
  decidable_of_iff (HoldTexts tokens ∧ _ ∧ _)
    ⟨fun ⟨texts, cells, ends⟩ => ⟨texts, cells, ends⟩, fun h => ⟨h.texts, h.cells, h.ends⟩⟩

variable {t : Token} {tokens rest : List Token}

theorem isIdle_of_inline (hk : t.kind = .inline) : t.isIdle = false := by
  simp [isIdle, isHiddenCode, hk, TokenKind.isBlank]

theorem normalForm_cons_idle (h : t.isIdle = true) : normalForm (t :: rest) = normalForm rest := by
  simp only [normalForm, pruned, h, if_true]

theorem normalForm_cons_inline (hk : t.kind = .inline) :
    normalForm (t :: rest) = normalForm t.children ++ normalForm rest := by
  have hidle := isIdle_of_inline hk
  cases t
  simp only at hk
  simp only [normalForm, pruned, hidle, Bool.false_eq_true, if_false, prunedToken, spliced,
    splicedToken, if_pos hk]

theorem normalForm_cons_leaf (hk : t.kind ≠ .inline) (h : t.isIdle = false) :
    normalForm (t :: rest) = { t with children := normalForm t.children } :: normalForm rest := by
  cases t
  simp only at hk
  simp only [normalForm, pruned, h, Bool.false_eq_true, if_false, prunedToken, spliced,
    splicedToken, if_neg hk, List.singleton_append]

theorem exists_leaf_of_mem_normalForm {u : Token} (h : u ∈ normalForm tokens) :
    ∃ t ∈ leaves tokens, t.kind ≠ .inline ∧ t.isIdle = false ∧
      u = { t with children := normalForm t.children } := by
  induction tokens using stream_induction with
  | nil => cases h
  | inline t rest hk ihc ihr =>
    rw [normalForm_cons_inline hk] at h
    rw [leaves_cons_inline hk]
    rcases List.mem_append.mp h with h | h
    · obtain ⟨v, hv, hu⟩ := ihc h
      exact ⟨v, List.mem_append_left _ hv, hu⟩
    · obtain ⟨v, hv, hu⟩ := ihr h
      exact ⟨v, List.mem_append_right _ hv, hu⟩
  | leaf t rest hk ih =>
    rw [leaves_cons_leaf hk]
    cases hidle : t.isIdle with
    | true =>
      rw [normalForm_cons_idle hidle] at h
      obtain ⟨v, hv, hu⟩ := ih h
      exact ⟨v, List.mem_cons_of_mem _ hv, hu⟩
    | false =>
      rw [normalForm_cons_leaf hk hidle] at h
      rcases List.mem_cons.mp h with rfl | h
      · exact ⟨t, List.mem_cons_self, hk, hidle, rfl⟩
      · obtain ⟨v, hv, hu⟩ := ih h
        exact ⟨v, List.mem_cons_of_mem _ hv, hu⟩

theorem leaves_eq_self (h : ∀ t ∈ tokens, t.kind ≠ .inline) : leaves tokens = tokens := by
  induction tokens with
  | nil => rfl
  | cons t rest ih =>
    obtain ⟨ht, hrest⟩ := List.forall_mem_cons.mp h
    rw [leaves_cons_leaf ht, ih hrest]

theorem normalForm_isFlat : ∀ u ∈ normalForm tokens, u.kind ≠ .inline ∧ u.isIdle = false := by
  intro u hu
  obtain ⟨t, -, hk, hidle, rfl⟩ := exists_leaf_of_mem_normalForm hu
  exact ⟨hk, hidle⟩

theorem HoldTexts.normalForm (h : HoldTexts tokens) : HoldTexts (normalForm tokens) := by
  intro u hu htext
  rw [leaves_eq_self fun v hv => (normalForm_isFlat v hv).1] at hu
  obtain ⟨t, ht, -, -, rfl⟩ := exists_leaf_of_mem_normalForm hu
  exact h t ht htext

namespace Normalizable

theorem tail (h : Normalizable (t :: rest)) : Normalizable rest where
  texts := h.texts.tail
  cells u hu := h.cells u (List.mem_cons_of_mem t hu)
  ends := h.ends.tail

/-- No cell ends inside of an inline token, so nothing can go wrong there. -/
theorem children (h : Normalizable (t :: rest)) (hk : t.kind = .inline) :
    Normalizable t.children where
  texts := h.texts.children hk
  cells u hu hinline v hv :=
    h.cells t List.mem_cons_self hk v (mem_leaves_iff.mpr ⟨u, hu, .inl ⟨hinline, hv⟩⟩)
  ends := by
    refine (List.pairwise_of_forall_mem_list ?_).isChain
    intro u hu v _ hclose
    have hleaf : u.kind ≠ .inline := by
      intro hinline
      simp [hinline, TokenKind.isCellClose] at hclose
    have hmem : u ∈ leaves t.children := mem_leaves_iff.mpr ⟨u, hu, .inr ⟨hleaf, rfl⟩⟩
    rw [h.cells t List.mem_cons_self hk u hmem] at hclose
    cases hclose

/-- Behind the end of a cell, a cell opens in the normal form exactly if it does in the stream. -/
theorem any_isCellOpen_head (h : Normalizable (t :: rest)) (hclose : t.kind.isCellClose = true) :
    (normalForm rest).head?.any isCellOpen = rest.head?.any isCellOpen := by
  cases rest with
  | nil => rfl
  | cons u rest =>
    obtain ⟨hleaf, hidle⟩ := (List.isChain_cons_cons.mp h.ends).1 hclose
    rw [normalForm_cons_leaf hleaf hidle]
    rfl

end Normalizable
end Token

namespace Renderer
variable {r : Renderer} {t : Token} {c : Context} {tokens : List Token}

theorem renderFrom_normalForm (h : Token.Normalizable tokens) :
    r.renderFrom (Token.normalForm tokens) c = r.renderFrom tokens c := by
  induction tokens using Token.stream_induction generalizing c with
  | nil => rfl
  | inline t rest hk ihc ihr =>
    have hlast : ∀ u ∈ (Token.normalForm t.children).getLast?, u.kind.isCellClose = false := by
      intro u hu
      obtain ⟨v, hv, -, -, rfl⟩ :=
        Token.exists_leaf_of_mem_normalForm (List.mem_of_getLast? hu)
      exact h.cells t List.mem_cons_self hk v hv
    rw [Token.normalForm_cons_inline hk, renderFrom_cons_inline hk,
      renderFrom_append (h.texts.children hk).normalForm hlast, ihc (h.children hk)]
    simp only [ihr h.tail]
  | leaf t rest hk ih =>
    rw [renderFrom_cons_leaf hk h.texts.head]
    cases hidle : t.isIdle with
    | true =>
      rw [Token.normalForm_cons_idle hidle, rule_of_isIdle hidle, ih h.tail]
      exact (prepend_empty _).symm
    | false =>
      have hnext : t.kind.isCellClose = true →
          (Token.normalForm rest).head?.any Token.isCellOpen = rest.head?.any Token.isCellOpen :=
        h.any_isCellOpen_head
      -- No rule looks at children, so those of `t` do not matter.
      have hcons : r.renderFrom ({ t with children := Token.normalForm t.children } ::
          Token.normalForm rest) c = r.rule t (Token.normalForm rest).head? c >>= fun p =>
            prepend p.1.display (r.renderFrom (Token.normalForm rest) p.2) :=
        renderFrom_cons_leaf hk h.texts.head
      rw [Token.normalForm_cons_leaf hk hidle, hcons, rule_congr_next hnext]
      simp only [ih h.tail]

/-- A stream renders like its normal form, in which no token is inline or without an effect. -/
theorem normal_form_renders_alike (h : Token.Normalizable tokens) :
    r.renderFrom (Token.normalForm tokens) c = r.renderFrom tokens c ∧
      ∀ t ∈ Token.normalForm tokens, t.kind ≠ .inline ∧ t.isIdle = false :=
  ⟨renderFrom_normalForm h, Token.normalForm_isFlat⟩

/-- A table in a region of a hint, with a link across inline tokens and code that is not shown. -/
def layeredTokens : List Token :=
  [{ kind := .metaHintOpen },
   { kind := .tableOpen },
   { kind := .theadOpen },
   { kind := .trOpen },
   { kind := .thOpen },
   { kind := .inline
     children := [{ kind := .linkOpen, attrs := [("href", .text "basics#setup")] },
                  { kind := .fence, info := .text "lua {hidden: true}", content := .text "x" },
                  { kind := .inline
                    children := [{ kind := .text, content := .text "Chapter ?" }] }] },
   { kind := .thClose },
   { kind := .thOpen },
   { kind := .inline, children := [{ kind := .linkClose }] },
   { kind := .thClose },
   { kind := .trClose },
   { kind := .theadClose },
   { kind := .tableClose },
   { kind := .metaHintClose }]

theorem normal_form_renders_alike_layered :
    Token.Normalizable layeredTokens ∧
      (Token.normalForm layeredTokens).map Token.kind =
        [.tableOpen, .thOpen, .linkOpen, .text, .thClose, .thOpen, .linkClose, .thClose, .trClose,
          .tableClose] ∧
      renderFrom { registry := Book.Registry.ofList ["intro", "basics"], chapter := "tables" }
          (Token.normalForm layeredTokens) {} =
        renderFrom { registry := Book.Registry.ofList ["intro", "basics"], chapter := "tables" }
          layeredTokens {} ∧
      ∀ t ∈ Token.normalForm layeredTokens, t.kind ≠ .inline ∧ t.isIdle = false :=
  ⟨by decide +kernel, by decide +kernel, normal_form_renders_alike (by decide +kernel)⟩

/-- A token without an effect does have one where it parts two cells. -/
example :
    let tokens : List Token :=
      [{ kind := .tdClose }, { kind := .paragraphClose }, { kind := .tdOpen }]
    let r : Renderer := { registry := Book.Registry.ofList [], chapter := "tables" }
    r.renderFrom tokens {} = .ok ("\n", {}) ∧
      r.renderFrom (Token.normalForm tokens) {} = .ok (" &\n", {}) := by
  decide +kernel

end Renderer
end ChapterTex
