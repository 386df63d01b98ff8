import ChapterTex.Proofs.Render.Modes

/-!
Tokens that print nothing. Some of them are idle: they leave the modes as they are as well, so that
nothing of them is left in a run.
-/
namespace ChapterTex

/-- The kinds that print nothing and set no mode. -/
def TokenKind.isBlank : TokenKind → Bool
  | paragraphClose | listItemClose | theadOpen | theadClose | tbodyOpen | tbodyClose | trOpen
  | metaHintOpen | metaHintClose => true
  | _ => false

namespace Token

def isHiddenCode (t : Token) : Bool := t.kind == .fence && t.info.text?.any isHidden

/-- Whether a token prints nothing and sets no mode. -/
def isIdle (t : Token) : Bool := t.kind.isBlank || t.isHiddenCode

/-- Whether a token prints nothing of its own. An inline token leaves that to its children, and the
end of a table cell is silent but for the separator in front of another cell. -/
def isSilent (t : Token) : Bool :=
  match t.kind with
  | .text => t.content.text? == some ""
  | .metaIndex => t.args.isEmpty
  | .inline | .metaLatexOpen | .metaLatexClose | .thClose | .tdClose => true
  | _ => t.isIdle

end Token

theorem ofList_flatMap_eq_empty_iff {f : Char → List Char} (hf : ∀ c, f c ≠ []) {s : String} :
    String.ofList (s.toList.flatMap f) = "" ↔ s = "" := by
  rw [← String.toList_inj, ← String.toList_inj, String.toList_ofList, String.toList_empty,
    List.flatMap_eq_nil_iff]
  constructor
  · intro h
    rw [List.eq_nil_iff_forall_not_mem]
    intro c hc
    exact hf c (h c hc)
  · intro h c hc
    rw [h] at hc
    exact absurd hc List.not_mem_nil

theorem Latex.escape_eq_empty_iff {s : String} : escape s = "" ↔ s = "" := by
  refine ofList_flatMap_eq_empty_iff fun c => ?_
  unfold escapeChar sequence
  split
  · split <;> simp
  · simp

namespace Renderer
variable {r : Renderer} {t : Token} {c c' : Context} {d : Datum} {s : String}

theorem withNumber_eq_empty_iff (n : Int) : withNumber n s = "" ↔ s = "" := by
  refine ofList_flatMap_eq_empty_iff fun c => ?_
  have hdigits : (toString n).toList ≠ [] := by
    rw [Int.toString_eq_repr, Int.repr_eq_if]
    split <;> simp [Nat.toDigits_ne_nil]
  split
  · exact hdigits
  · simp

/-- An idle token has no effect at all. -/
theorem rule_of_isIdle (h : t.isIdle = true) (next : Option Token) (c : Context) :
    r.rule t next c = .ok (.text "", c) := by
  cases hk : t.kind <;> simp only [Token.isIdle, Token.isHiddenCode, hk, TokenKind.isBlank] at h
  case fence =>
    cases hi : t.info.text? with
    | none => simp [hi] at h
    | some info =>
      have hidden : isHidden info = true := by simpa [hi] using h
      simp [rule, hk, fence, hi, hidden, pure, Except.pure]
  -- The other kinds are blank, or the hypothesis fails of them.
  all_goals simp_all [rule, TokenKind.template?]

theorem text_eq_empty_iff_of_text {next : Option Token} (hk : t.kind = .text)
    (h : r.rule t next c = .ok (d, c')) (hs : d.text? = some s) :
    s = "" ↔ t.content.text? = some "" := by
  have hshown := shownText_of_rule hk h hs
  cases hcontent : t.content <;> rw [hcontent] at hshown <;>
    simp only [shownText, Datum.text?, reduceCtorEq] at hshown ⊢
  case text u =>
    obtain rfl := Option.some.inj hshown
    cases c.linkedChapter <;> cases c.raw <;>
      simp [Latex.escape_eq_empty_iff, withNumber_eq_empty_iff]
  case latex u =>
    cases hl : c.linkedChapter with
    | none =>
      rw [hl] at hshown
      simp_all
    | some n =>
      rw [hl] at hshown
      obtain rfl := Option.some.inj hshown
      cases c.raw <;> simp [Latex.escape_eq_empty_iff, withNumber_eq_empty_iff]

/-- What a token prints is empty exactly if it is silent, and no end of a cell in front of another.
Tokens that set or reset quote mode are left out: those of a quotation always print something, and a
paragraph in quote mode prints nothing but its label. -/
theorem text_eq_empty_iff {next : Option Token} (hmark : t.quoteMark? = none)
    (h : r.rule t next c = .ok (d, c')) (hs : d.text? = some s) :
    s = "" ↔
      t.isSilent = true ∧ (t.kind.isCellClose = true → next.any Token.isCellOpen = false) := by
  cases hk : t.kind
  case text =>
    simp [text_eq_empty_iff_of_text hk h hs, Token.isSilent, hk, TokenKind.isCellClose]
  all_goals
    simp only [rule, hk, Token.quoteMark?, Token.isSilent, Token.isIdle, Token.isHiddenCode,
      TokenKind.isBlank, TokenKind.isCellClose] at h hmark ⊢
  case paragraphOpen => cases hmark
  case metaQuoteClose => cases hmark
  case headingOpen =>
    obtain ⟨-, ⟨-, rfl⟩ | ⟨tag, command, -, -, rfl⟩⟩ := headingOpen_eq_ok_iff.mp h <;>
      obtain rfl := Option.some.inj hs <;> simp
  case fence =>
    obtain ⟨-, info, hi, ⟨hidden, rfl⟩ | ⟨shown, code, -, rfl⟩⟩ := fence_eq_ok_iff.mp h <;>
      obtain rfl := Option.some.inj hs
    · simp [hi, hidden]
    · simp [hi, shown]
  case codeInline =>
    obtain ⟨-, code, -, rfl⟩ := codeInline_eq_ok_iff.mp h
    obtain rfl := Option.some.inj hs
    simp
  case linkOpen =>
    obtain ⟨href, -, ⟨-, rfl, -⟩ | ⟨link, -, rfl, -⟩⟩ := linkOpen_eq_ok_iff.mp h <;>
      obtain rfl := Option.some.inj hs <;> simp
  case metaIndex =>
    cases h
    obtain rfl := Option.some.inj hs
    cases t.args <;> simp [Latex.indexEntries, Latex.indexEntry, String.join_cons]
  case metaIndexsee =>
    obtain ⟨-, term, target, rest, -, rfl⟩ := metaIndexsee_eq_ok_iff.mp h
    obtain rfl := Option.some.inj hs
    simp [Latex.indexSee]
  case metaFigure =>
    obtain ⟨-, figure, url, -, -, rfl⟩ := metaFigure_eq_ok_iff.mp h
    obtain rfl := Option.some.inj hs
    simp
  case metaQuoteOpen =>
    obtain ⟨quote, -, ⟨-, -, rfl⟩ | ⟨-, -, rfl⟩⟩ := metaQuoteOpen_eq_ok_iff.mp h <;>
      obtain rfl := Option.some.inj hs <;> simp
  case thClose =>
    cases h
    obtain rfl := Option.some.inj hs
    cases next.any Token.isCellOpen <;> simp
  case tdClose =>
    cases h
    obtain rfl := Option.some.inj hs
    cases next.any Token.isCellOpen <;> simp
  -- The other rules print a fixed text.
  all_goals
    cases h
    obtain rfl := Option.some.inj hs
    simp [TokenKind.template?]

end Renderer
end ChapterTex
