import ChapterTex.Proofs.Render.Compose

/-!
Streams one after the other. Two streams render like their concatenation, but for the separator
between two table cells that meet, which looks one token ahead.
-/
namespace ChapterTex
namespace Token

/-- Whether a token ends a cell in front of another one. -/
def separates (t : Token) (next : Option Token) : Bool := t.kind.isCellClose && next.any isCellOpen

def separator (t : Token) (next : Option Token) : String := if t.separates next then " &" else ""

/-- Whether a cell ends where two streams meet, and another one opens. -/
def meets (front back : List Token) : Bool := front.getLast?.any fun t => t.separates back.head?

/-- What is printed where two streams meet. -/
def seam (front back : List Token) : String := if meets front back then " &" else ""

@[simp] theorem separates_none (t : Token) : t.separates none = false := by simp [separates]

@[simp] theorem meets_nil (back : List Token) : meets [] back = false := rfl

@[simp] theorem seam_nil (back : List Token) : seam [] back = "" := rfl

@[simp] theorem seam_singleton (t : Token) (back : List Token) :
    seam [t] back = t.separator back.head? := rfl

theorem meets_cons_cons (t u : Token) (rest back : List Token) :
    meets (t :: u :: rest) back = meets (u :: rest) back := by
  rw [meets, List.getLast?_cons_cons, meets]

theorem seam_cons_cons (t u : Token) (rest back : List Token) :
    seam (t :: u :: rest) back = seam (u :: rest) back := by
  rw [seam, meets_cons_cons, seam]

/-- Streams meet without a separator, if the first does not end with the end of a cell. -/
theorem meets_of_last {front back : List Token}
    (hlast : ∀ t ∈ front.getLast?, t.kind.isCellClose = false) : meets front back = false := by
  unfold meets
  cases hfront : front.getLast? with
  | none => rfl
  | some t =>
    have hclose : t.kind.isCellClose = false := hlast t hfront
    simp [separates, hclose]

/-- Streams meet without a separator, if the second does not start with a cell. -/
theorem meets_of_head {front back : List Token} (hhead : ∀ t ∈ back.head?, t.isCellOpen = false) :
    meets front back = false := by
  cases back with
  | nil => simp [meets]
  | cons t rest =>
    have hopen : t.isCellOpen = false := hhead t rfl
    simp [meets, separates, hopen]

end Token

namespace Renderer
variable {r : Renderer} {t : Token} {c c' : Context}

/-- The end of a cell prints what separates it from the token behind it, and nothing else. -/
theorem renderToken_of_isCellClose (h : t.kind.isCellClose = true) (next : Option Token)
    (c : Context) :
    r.renderToken t next c = .ok (.text (t.separator next), c) := by
  have hk : t.kind ≠ .inline := by
    intro hk
    rw [hk] at h
    cases h
  rw [renderToken_leaf hk, rule]
  cases hkind : t.kind <;> rw [hkind] at h <;> cases h <;>
    simp only [cellClose, Token.separator, Token.separates, hkind, TokenKind.isCellClose,
      Bool.true_and]

/-- A token prints the same in front of every other token, but for what separates it from that
token. -/
theorem renderToken_in_front {next : Option Token} {s : String} :
    (∃ d, r.renderToken t next c = .ok (d, c') ∧ d.text? = some s) ↔
      ∃ s₀, (∃ d, r.renderToken t none c = .ok (d, c') ∧ d.text? = some s₀) ∧
        s = s₀ ++ t.separator next := by
  cases hclose : t.kind.isCellClose with
  | true =>
    have hnone : t.separator none = "" := by simp [Token.separator]
    simp only [renderToken_of_isCellClose hclose, hnone, Except.ok.injEq, Prod.mk.injEq]
    constructor
    · rintro ⟨_, ⟨rfl, rfl⟩, hs⟩
      exact ⟨"", ⟨_, ⟨rfl, rfl⟩, rfl⟩, by simpa using hs.symm⟩
    · rintro ⟨_, ⟨_, ⟨rfl, rfl⟩, hs⟩, rfl⟩
      obtain rfl := Option.some.inj hs
      exact ⟨_, ⟨rfl, rfl⟩, by simp⟩
  | false =>
    have hnext : r.renderToken t next c = r.renderToken t none c :=
      renderToken_congr_next (by simp [hclose]) c
    simp [Token.separator, Token.separates, hclose, hnext]

/-- A token renders in front of a stream with a separator in between, if it is the end of a cell and
another cell follows. -/
theorem renderFrom_cons_eq_ok_iff_seam (t : Token) (rest : List Token) {out : String} :
    r.renderFrom (t :: rest) c = .ok (out, c') ↔ ∃ s c₁ s', r.renderFrom [t] c = .ok (s, c₁) ∧
      r.renderFrom rest c₁ = .ok (s', c') ∧ out = s ++ Token.seam [t] rest ++ s' := by
  have hsingle : ∀ {s : String} {c₁ : Context}, r.renderFrom [t] c = .ok (s, c₁) ↔
      ∃ d, r.renderToken t none c = .ok (d, c₁) ∧ d.text? = some s := by
    intro s c₁
    rw [renderFrom_cons_eq_ok_iff]
    constructor
    · rintro ⟨d, c₂, s₀, tail, hd, hs, htail, rfl⟩
      cases htail
      exact ⟨d, hd, by rw [hs, String.append_empty]⟩
    · rintro ⟨d, hd, hs⟩
      exact ⟨d, c₁, s, "", hd, hs, rfl, String.append_empty.symm⟩
  rw [renderFrom_cons_eq_ok_iff, Token.seam_singleton]
  simp only [hsingle]
  constructor
  · rintro ⟨d, c₁, s, tail, hd, hs, htail, rfl⟩
    obtain ⟨s₀, hfirst, rfl⟩ := renderToken_in_front.mp ⟨d, hd, hs⟩
    exact ⟨s₀, c₁, tail, hfirst, htail, rfl⟩
  · rintro ⟨s₀, c₁, tail, hfirst, htail, rfl⟩
    obtain ⟨d, hd, hs⟩ := renderToken_in_front.mpr ⟨s₀, hfirst, rfl⟩
    exact ⟨d, c₁, _, tail, hd, hs, htail, rfl⟩

/-- Two streams render one after the other, with a separator in between if cells meet there. A
stream renders in front of another one exactly if both do. -/
theorem renderFrom_append_eq_ok_iff {front back : List Token} {out : String} :
    r.renderFrom (front ++ back) c = .ok (out, c') ↔ ∃ s c₁ s',
      r.renderFrom front c = .ok (s, c₁) ∧ r.renderFrom back c₁ = .ok (s', c') ∧
        out = s ++ Token.seam front back ++ s' := by
  induction front generalizing c out with
  | nil =>
    constructor
    · intro h
      exact ⟨"", c, out, rfl, h, by simp⟩
    · rintro ⟨_, _, s', hs, h, rfl⟩
      cases hs
      simpa using h
  | cons t rest ih =>
    cases rest with
    | nil => exact renderFrom_cons_eq_ok_iff_seam t back
    | cons u rest =>
      rw [List.cons_append, renderFrom_cons_eq_ok_iff_seam]
      simp only [ih, renderFrom_cons_eq_ok_iff_seam t (u :: rest), Token.seam_cons_cons]
      constructor
      · rintro ⟨s, c₁, _, hs, ⟨s₁, c₂, s₂, hs₁, hs₂, rfl⟩, rfl⟩
        exact ⟨_, c₂, s₂, ⟨s, c₁, s₁, hs, hs₁, rfl⟩, hs₂, by simp [String.append_assoc]⟩
      · rintro ⟨_, c₂, s₂, ⟨s, c₁, s₁, hs, hs₁, rfl⟩, hs₂, rfl⟩
        exact ⟨s, c₁, _, hs, ⟨s₁, c₂, s₂, hs₁, hs₂, rfl⟩, by simp [String.append_assoc]⟩

/-- Where the text tokens of the first of two streams hold texts, a failure of it is one of both,
and all other failures are those of the second one. -/
theorem renderFrom_append_eq {front back : List Token} (htexts : Token.HoldTexts front) :
    r.renderFrom (front ++ back) c = r.renderFrom front c >>= fun p =>
      prepend (p.1 ++ Token.seam front back) (r.renderFrom back p.2) := by
  induction front generalizing c with
  | nil => simp [bind, Except.bind]
  | cons t rest ih =>
    rw [List.cons_append, renderFrom_cons htexts.head, renderFrom_cons htexts.head]
    cases rest with
    | nil =>
      rw [List.nil_append, Token.seam_singleton]
      cases hclose : t.kind.isCellClose with
      | true =>
        simp [renderToken_of_isCellClose hclose, Token.separator, bind, Except.bind]
      | false =>
        have hnext : r.renderToken t back.head? c = r.renderToken t none c :=
          renderToken_congr_next (by simp [hclose]) c
        rw [hnext, List.head?_nil]
        cases r.renderToken t none c <;> simp [Token.separator, Token.separates, hclose, bind,
          Except.bind]
    | cons u rest =>
      simp only [List.cons_append, List.head?_cons, Token.seam_cons_cons] at ih ⊢
      cases r.renderToken t (some u) c with
      | error f => rfl
      | ok p =>
        simp only [bind, Except.bind, ih htexts.tail]
        cases r.renderFrom (u :: rest) p.2 with
        | error f => rfl
        | ok q =>
          obtain ⟨out, c₂⟩ := q
          simp only [prepend_ok, prepend_prepend, String.append_assoc]

/-- Two streams render one after the other without a separator, if the first does not end with the
end of a cell. -/
theorem renderFrom_append {front back : List Token} (htexts : Token.HoldTexts front)
    (hlast : ∀ t ∈ front.getLast?, t.kind.isCellClose = false) :
    r.renderFrom (front ++ back) c =
      r.renderFrom front c >>= fun p => prepend p.1 (r.renderFrom back p.2) := by
  rw [renderFrom_append_eq htexts, Token.seam, Token.meets_of_last hlast]
  simp

/-- Rendering composes, up to one token of lookahead. A stream fails in front of another one as it
does alone. Otherwise the other stream goes on from the context that it leaves, with the separator
of cells in between. Only what separates a token from the next one depends on that token. -/
theorem rendering_composes {front : List Token} (htexts : Token.HoldTexts front) (r : Renderer)
    (back : List Token) (c : Context) :
    (∀ f, r.renderFrom front c = .error f → r.renderFrom (front ++ back) c = .error f) ∧
      (∀ s c₁, r.renderFrom front c = .ok (s, c₁) →
        (∀ f, r.renderFrom (front ++ back) c = .error f ↔ r.renderFrom back c₁ = .error f) ∧
          ∀ out c', r.renderFrom (front ++ back) c = .ok (out, c') ↔
            ∃ s', r.renderFrom back c₁ = .ok (s', c') ∧ out = s ++ Token.seam front back ++ s') ∧
      ∀ (t : Token) (next next' : Option Token) (c : Context),
        r.renderToken t next c = r.renderToken t next' c ↔
          t.separator next = t.separator next' := by
  have happend : r.renderFrom (front ++ back) c = _ := renderFrom_append_eq htexts
  refine ⟨fun f hf => ?_, fun s c₁ hs => ⟨fun f => ?_, fun out c' => ?_⟩, fun t next next' c => ?_⟩
  · rw [happend, hf]
    rfl
  · have hback : r.renderFrom (front ++ back) c =
        prepend (s ++ Token.seam front back) (r.renderFrom back c₁) := by
      rw [happend, hs]
      rfl
    rw [hback, prepend_eq_error_iff]
  · rw [renderFrom_append_eq_ok_iff, hs]
    constructor
    · rintro ⟨_, _, s', hs₁, hs', rfl⟩
      cases hs₁
      exact ⟨s', hs', rfl⟩
    · rintro ⟨s', hs', rfl⟩
      exact ⟨s, c₁, s', rfl, hs', rfl⟩
  · cases hclose : t.kind.isCellClose with
    | true => simp [renderToken_of_isCellClose hclose]
    | false =>
      have hnext : r.renderToken t next c = r.renderToken t next' c :=
        renderToken_congr_next (by simp [hclose]) c
      simp [hnext, Token.separator, Token.separates, hclose]

/-- A cell that ends inside of a link to a chapter. -/
def linkedCell : List Token :=
  [{ kind := .tdOpen },
   { kind := .inline, children := [{ kind := .linkOpen, attrs := [("href", .text "basics")] }] },
   { kind := .tdClose }]

/-- A cell with the text of that link. -/
def numberCell : List Token :=
  [{ kind := .thOpen },
   { kind := .inline, children := [{ kind := .text, content := .text "Chapter ?" }] },
   { kind := .thClose }]

theorem rendering_composes_linked_cell :
    Token.HoldTexts linkedCell ∧ Token.seam linkedCell numberCell = " &" ∧
      renderFrom { registry := Book.Registry.ofList ["intro", "basics"], chapter := "tables" }
        (linkedCell ++ numberCell) {} =
          .ok ("\n\\hyperref[basics]\x7b &\nChapter 1", { linkedChapter := some 1 }) := by
  have htexts : Token.HoldTexts linkedCell := by decide
  obtain ⟨-, hok, -⟩ := rendering_composes htexts
    { registry := Book.Registry.ofList ["intro", "basics"], chapter := "tables" } numberCell {}
  obtain ⟨-, hwhole⟩ := hok "\n\\hyperref[basics]\x7b" { linkedChapter := some 1 } rfl
  exact ⟨htexts, rfl, (hwhole _ _).mpr ⟨"\nChapter 1", rfl, rfl⟩⟩

/-- A cell that ends inside of an inline token does not meet the cell behind that token. -/
example (children : List Token) (t : Token) :
    Token.seam [{ kind := .inline, children := children ++ [{ kind := .tdClose }] }] [t] = "" :=
  rfl

end Renderer
end ChapterTex
