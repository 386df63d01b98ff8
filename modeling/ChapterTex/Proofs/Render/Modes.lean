import Mathlib.Data.List.Induction
import ChapterTex.Proofs.Render.Rules
import ChapterTex.Proofs.Render.Walk

/-!
The modes of a run as a history. Each mode is what the last token in document order made of it that
sets this mode, wherever in the nesting that token stands.
-/
namespace ChapterTex

/-- The last mark in a history, and `start` in a history without marks. -/
def lastMark {α : Type} (mark : Token → Option α) (start : α) (history : List Token) : α :=
  (history.filterMap mark).getLast?.getD start

@[simp] theorem lastMark_nil {α : Type} (mark : Token → Option α) (start : α) :
    lastMark mark start [] = start := rfl

theorem lastMark_cons {α : Type} (mark : Token → Option α) (start : α) (t : Token)
    (history : List Token) :
    lastMark mark start (t :: history) = lastMark mark ((mark t).getD start) history := by
  unfold lastMark
  cases hm : mark t with
  | none => rw [List.filterMap_cons_none hm, Option.getD_none]
  | some a =>
    rw [List.filterMap_cons_some hm, List.getLast?_cons, Option.getD_some, Option.getD_some]

theorem lastMark_concat {α : Type} (mark : Token → Option α) (start : α) (history : List Token)
    (t : Token) :
    lastMark mark start (history ++ [t]) = (mark t).getD (lastMark mark start history) := by
  induction history generalizing start with
  | nil => rw [List.nil_append, lastMark_cons, lastMark_nil, lastMark_nil]
  | cons u history ih => rw [List.cons_append, lastMark_cons, lastMark_cons, ih]

theorem lastMark_of_mark {α : Type} {mark : Token → Option α} {start a : α} {t : Token}
    {before after : List Token} (ht : mark t = some a) (hafter : ∀ u ∈ after, mark u = none) :
    lastMark mark start (before ++ t :: after) = a := by
  have hnone : after.filterMap mark = [] := by simpa using hafter
  rw [lastMark, List.filterMap_append, List.filterMap_cons_some ht, hnone, List.getLast?_concat,
    Option.getD_some]

/-- A mode that differs from the start was set by a mark, after which there is none. -/
theorem exists_mark_of_lastMark_ne {α : Type} {mark : Token → Option α} {start : α}
    {history : List Token} (h : lastMark mark start history ≠ start) :
    ∃ before t after, history = before ++ t :: after ∧
      mark t = some (lastMark mark start history) ∧ ∀ u ∈ after, mark u = none := by
  induction history using List.reverseRecOn with
  | nil => exact absurd rfl h
  | append_singleton history t ih =>
    rw [lastMark_concat] at h ⊢
    cases hm : mark t with
    | some a => exact ⟨history, t, [], rfl, hm, by simp⟩
    | none =>
      rw [hm, Option.getD_none] at h
      obtain ⟨before, u, after, hsplit, hu, hafter⟩ := ih h
      refine ⟨before, u, after ++ [t], by simp [hsplit], hu, ?_⟩
      intro v hv
      rcases List.mem_append.mp hv with hv | hv
      · exact hafter v hv
      · rwa [List.mem_singleton.mp hv]

namespace Token

def rawMark? (t : Token) : Option Bool :=
  match t.kind with
  | .metaLatexOpen => some true
  | .metaLatexClose => some false
  | _ => none

/-- Quote mode is set by an epigraph, and reset by the end of a quotation and by a paragraph. -/
def quoteMark? (t : Token) : Option Bool :=
  match t.kind with
  | .metaQuoteOpen => if t.isEpigraph then some true else none
  | .metaQuoteClose | .paragraphOpen => some false
  | _ => none

/-- The linked chapter is set by a link to a chapter, and reset by the end of any link. -/
def linkMark? (registry : Book.Registry) (t : Token) : Option (Option Int) :=
  match t.kind with
  | .linkOpen => (t.target? registry).map fun link => some (link.index : Int)
  | .linkClose => some none
  | _ => none

end Token

def Context.after (registry : Book.Registry) (c : Context) (history : List Token) : Context where
  raw := lastMark Token.rawMark? c.raw history
  quote := lastMark Token.quoteMark? c.quote history
  linkedChapter := lastMark (Token.linkMark? registry) c.linkedChapter history

theorem Context.after_cons (registry : Book.Registry) (c : Context) (t : Token)
    (history : List Token) :
    c.after registry (t :: history) = (c.after registry [t]).after registry history := by
  simp [after, lastMark_cons]

/-- What a text token with this content prints. Text that is already escaped is only escaped again
after a number was put into it. -/
def shownText (raw : Bool) (link : Option Int) : Datum → Option String
  | .text s =>
    let numbered := (link.map fun n => Renderer.withNumber n s).getD s
    some (if raw then numbered else Latex.escape numbered)
  | .latex s =>
    match link with
    | none => some s
    | some n =>
      some (if raw then Renderer.withNumber n s else Latex.escape (Renderer.withNumber n s))
  | _ => none

/-- A token is printed by the last marks in the history before it: a text as they show it, and a
paragraph with a blank line unless they leave quote mode. -/
structure Emission.Follows (e : Emission) (r : Renderer) (c : Context) (history : List Token) :
    Prop where
  text : e.token.kind = .text →
    shownText (lastMark Token.rawMark? c.raw history)
      (lastMark (Token.linkMark? r.registry) c.linkedChapter history) e.token.content = some e.text
  paragraph : e.token.kind = .paragraphOpen →
    e.text = (if lastMark Token.quoteMark? c.quote history then "" else "\n\n") ++ r.label e.token

namespace Renderer
variable {r : Renderer} {t : Token} {c c' : Context} {d : Datum} {es : List Emission}

/-- One step leaves the modes that its token sets. -/
theorem rule_context {next : Option Token} (h : r.rule t next c = .ok (d, c')) :
    c' = c.after r.registry [t] := by
  obtain ⟨raw, quote, link⟩ := c
  simp only [Context.after, lastMark_cons, lastMark_nil]
  cases hk : t.kind <;>
    simp only [rule, hk, Token.rawMark?, Token.quoteMark?, Token.linkMark?, Option.getD_none,
      Option.getD_some] at h ⊢
  case paragraphOpen =>
    obtain ⟨-, rfl⟩ := paragraphOpen_eq_ok_iff.mp h
    rfl
  case headingOpen =>
    obtain ⟨rfl, -⟩ := headingOpen_eq_ok_iff.mp h
    rfl
  case fence =>
    obtain ⟨rfl, -⟩ := fence_eq_ok_iff.mp h
    rfl
  case codeInline =>
    obtain ⟨rfl, -⟩ := codeInline_eq_ok_iff.mp h
    rfl
  case linkOpen =>
    obtain ⟨href, -, ⟨ht, -, rfl⟩ | ⟨target, ht, -, rfl⟩⟩ := linkOpen_eq_ok_iff.mp h
    · simp [ht]
    · simp [ht, Context.withLinkedChapter]
  case text =>
    obtain ⟨rfl, -⟩ := text_eq_ok_iff.mp h
    rfl
  case metaIndexsee =>
    obtain ⟨rfl, -⟩ := metaIndexsee_eq_ok_iff.mp h
    rfl
  case metaFigure =>
    obtain ⟨rfl, -⟩ := metaFigure_eq_ok_iff.mp h
    rfl
  case metaQuoteOpen =>
    obtain ⟨quote, -, ⟨he, rfl, -⟩ | ⟨he, rfl, -⟩⟩ := metaQuoteOpen_eq_ok_iff.mp h
    · simp [he, Context.withQuote]
    · simp [he]
  case metaQuoteClose =>
    obtain ⟨rfl, -⟩ := metaQuoteClose_eq_ok_iff.mp h
    rfl
  -- The other rules cannot fail, and what they do to the context is written in them.
  all_goals
    cases h
    rfl

/-- A run leaves the modes of its history. -/
theorem emitAll_context {vs : List Visit} (h : r.emitAll vs c = .ok (es, c')) :
    c' = c.after r.registry (vs.map Visit.token) := by
  induction vs generalizing c es with
  | nil =>
    cases h
    rfl
  | cons v vs ih =>
    obtain ⟨e, c₁, rest, he, hrest, rfl⟩ := emitAll_cons_eq_ok_iff.mp h
    obtain ⟨-, -, piece, hrule, -⟩ := emit_eq_ok_iff.mp he
    rw [List.map_cons, Context.after_cons, ← rule_context hrule]
    exact ih hrest

/-- Every token of a run meets the modes of the tokens before it. -/
theorem before_eq_after {vs : List Visit} {fs gs : List Emission} {e : Emission}
    (h : r.emitAll vs c = .ok (fs ++ e :: gs, c')) :
    e.before = c.after r.registry (fs.map Emission.token) := by
  obtain ⟨us, v, ws, c₁, c₂, rfl, hfs, he, -⟩ := emitAll_eq_append_cons h
  rw [map_token_of_emitAll hfs, ← emitAll_context hfs]
  exact (emit_eq_ok_iff.mp he).2.1

/-- A text token prints its content numbered by the linked chapter, and escaped unless it is raw. -/
theorem shownText_of_rule {next : Option Token} {s : String} (hk : t.kind = .text)
    (h : r.rule t next c = .ok (d, c')) (hs : d.text? = some s) :
    shownText c.raw c.linkedChapter t.content = some s := by
  simp only [rule, hk] at h
  obtain ⟨-, content, hn, hd⟩ := text_eq_ok_iff.mp h
  unfold numbered at hn
  cases hl : c.linkedChapter with
  | none =>
    rw [hl] at hn
    cases hn
    cases hraw : c.raw with
    | true =>
      rw [hraw, if_pos rfl] at hd
      cases hd
      rcases Datum.text?_eq_some_iff.mp hs with hc | hc <;> rw [hc] <;> rfl
    | false =>
      rw [hraw, if_neg Bool.false_ne_true] at hd
      cases hc : t.content <;> simp only [hc, Latex.escapeDatum, reduceCtorEq] at hd
      all_goals
        cases hd
        simpa [shownText] using hs
  | some n =>
    rw [hl] at hn
    cases ht : t.content.text? with
    | none =>
      rw [ht] at hn
      cases hn
    | some content =>
      rw [ht] at hn
      cases hn
      have hd : d.text? = some (if c.raw then withNumber n content
          else Latex.escape (withNumber n content)) := by
        cases hraw : c.raw <;> rw [hraw] at hd <;> cases hd <;> rfl
      rw [hd] at hs
      cases hs
      rcases Datum.text?_eq_some_iff.mp ht with hc | hc <;> rw [hc] <;> rfl

theorem text_of_paragraphOpen {next : Option Token} {s : String} (hk : t.kind = .paragraphOpen)
    (h : r.rule t next c = .ok (d, c')) (hs : d.text? = some s) :
    s = (if c.quote then "" else "\n\n") ++ r.label t := by
  simp only [rule, hk] at h
  obtain ⟨rfl, -⟩ := paragraphOpen_eq_ok_iff.mp h
  exact (Option.some.inj hs).symm

/-- The modes are what the last marks made of them. A run ends in the modes after its whole history,
and every token on the way is printed by the last marks before it. -/
theorem modes_are_last_marks {tokens : List Token} {out : String}
    (h : r.renderFrom tokens c = .ok (out, c')) :
    c' = c.after r.registry (Token.leaves tokens) ∧
      ∃ es, r.emissions tokens c = .ok (es, c') ∧ out = Emission.textOf es ∧
        es.map Emission.token = Token.leaves tokens ∧
        ∀ fs e gs, es = fs ++ e :: gs → e.Follows r c (fs.map Emission.token) := by
  obtain ⟨es, hes, hout⟩ := renderFrom_eq_ok_iff_emissions.mp h
  refine ⟨emitAll_context hes, es, hes, hout, map_token_of_emitAll hes, ?_⟩
  intro fs e gs hsplit
  subst hsplit
  have hmem : e ∈ fs ++ e :: gs := List.mem_append_right fs List.mem_cons_self
  obtain ⟨next, piece, c₁, hrule, htext⟩ := rule_of_mem_emitAll hes hmem
  rw [before_eq_after hes] at hrule
  constructor
  · intro hk
    exact shownText_of_rule hk hrule htext
  · intro hk
    exact text_of_paragraphOpen hk hrule htext

/-- Raw mode that ends inside of nested inline tokens, and a link inside of a link. -/
def straddlingModes : List Token :=
  [{ kind := .metaLatexOpen },
   { kind := .inline
     children := [{ kind := .linkOpen, attrs := [("href", .text "basics")] },
                  { kind := .text, content := .text "?_" },
                  { kind := .inline, children := [{ kind := .metaLatexClose }] },
                  { kind := .linkOpen, attrs := [("href", .text "notes.html")] }] },
   { kind := .text, content := .text "?_" },
   { kind := .linkClose },
   { kind := .paragraphOpen },
   { kind := .text, content := .text "?_" }]

theorem modes_are_last_marks_straddling :
    ∃ es, emissions { registry := Book.Registry.ofList ["intro", "basics"], chapter := "intro" }
        straddlingModes { quote := true } = .ok (es, {}) ∧
      "\\hyperref[basics]\x7b1_\\href\x7bnotes.html\x7d\x7b1\\_\x7d?\\_" = Emission.textOf es ∧
      es.map Emission.token = Token.leaves straddlingModes ∧
      ∀ fs e gs, es = fs ++ e :: gs →
        e.Follows { registry := Book.Registry.ofList ["intro", "basics"], chapter := "intro" }
          { quote := true } (fs.map Emission.token) :=
  (modes_are_last_marks (by decide +kernel)).2

end Renderer
end ChapterTex
