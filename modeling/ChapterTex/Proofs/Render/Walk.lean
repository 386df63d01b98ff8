import ChapterTex.Proofs.Outcome
import ChapterTex.Render.Basic

/-!
The walk of a stream in document order. An inline token stands for its children, so the text of a
stream is what the tokens on its walk print, one after the other.
-/
namespace ChapterTex

/-- A token on the walk of a stream, with the token after it on its own level. -/
structure Visit where
  token : Token
  next : Option Token

namespace Token

mutual

/-- The visits at a token in front of `next`. -/
def visit (t : Token) (next : Option Token) : List Visit :=
  match t with
  | ⟨kind, tag, content, attrs, args, children, info, hashId⟩ =>
    if kind = .inline then visits children
    else [⟨⟨kind, tag, content, attrs, args, children, info, hashId⟩, next⟩]

def visits : List Token → List Visit
  | [] => []
  | t :: rest => visit t rest.head? ++ visits rest

end

/-- The tokens of a stream in document order, with the children of inline tokens in their place. -/
def leaves (tokens : List Token) : List Token := (visits tokens).map Visit.token

@[simp] theorem visits_nil : visits [] = [] := rfl

theorem visits_cons_inline {t : Token} (h : t.kind = .inline) (rest : List Token) :
    visits (t :: rest) = visits t.children ++ visits rest := by
  cases t
  simp only at h
  simp only [visits, visit, if_pos h]

theorem visits_cons_leaf {t : Token} (h : t.kind ≠ .inline) (rest : List Token) :
    visits (t :: rest) = ⟨t, rest.head?⟩ :: visits rest := by
  cases t
  simp only at h
  simp only [visits, visit, if_neg h, List.singleton_append]

@[simp] theorem leaves_nil : leaves [] = [] := rfl

theorem leaves_cons_inline {t : Token} (h : t.kind = .inline) (rest : List Token) :
    leaves (t :: rest) = leaves t.children ++ leaves rest := by
  simp [leaves, visits_cons_inline h]

theorem leaves_cons_leaf {t : Token} (h : t.kind ≠ .inline) (rest : List Token) :
    leaves (t :: rest) = t :: leaves rest := by
  simp [leaves, visits_cons_leaf h]

theorem mem_leaves_iff {u : Token} {tokens : List Token} :
    u ∈ leaves tokens ↔
      ∃ t ∈ tokens, (t.kind = .inline ∧ u ∈ leaves t.children) ∨ (t.kind ≠ .inline ∧ u = t) := by
  induction tokens with
  | nil => simp
  | cons t rest ih =>
    by_cases h : t.kind = .inline
    · simp [leaves_cons_inline h, ih, h]
    · simp [leaves_cons_leaf h, ih, h]

/-- Induction over streams: an inline token brings its children, any other token stands alone. -/
@[elab_as_elim]
theorem stream_induction {motive : List Token → Prop} (nil : motive [])
    (inline : ∀ t rest, t.kind = .inline → motive t.children → motive rest → motive (t :: rest))
    (leaf : ∀ t rest, t.kind ≠ .inline → motive rest → motive (t :: rest)) :
    ∀ tokens, motive tokens
  | [] => nil
  | t :: rest => by
    have hrest := stream_induction nil inline leaf rest
    by_cases h : t.kind = .inline
    · exact inline t rest h (stream_induction nil inline leaf t.children) hrest
    · exact leaf t rest h hrest
termination_by tokens => sizeOf tokens
decreasing_by
  · simp only [List.cons.sizeOf_spec]
    omega
  · cases t
    simp only [List.cons.sizeOf_spec, Token.mk.sizeOf_spec]
    omega

/-- The token after a visited one on its own level is visited next, unless it is an inline token. -/
theorem visits_next {tokens : List Token} {us ws : List Visit} {v : Visit} {n : Token}
    (h : visits tokens = us ++ v :: ws) (hnext : v.next = some n) (hleaf : n.kind ≠ .inline) :
    ∃ w rest, ws = w :: rest ∧ w.token = n := by
  induction tokens using stream_induction generalizing us ws with
  | nil => simp at h
  | inline t rest ht ihc ihr =>
    rw [visits_cons_inline ht] at h
    rcases List.append_eq_append_iff.mp h with ⟨as, -, hrest⟩ | ⟨as, hchildren, has⟩
    · exact ihr hrest
    · cases as with
      | nil =>
        have hrest : visits rest = [] ++ v :: ws := has.symm
        exact ihr hrest
      | cons a as =>
        obtain ⟨rfl, rfl⟩ := List.cons.inj has
        obtain ⟨w, more, rfl, hw⟩ := ihc hchildren
        exact ⟨w, more ++ visits rest, rfl, hw⟩
  | leaf t rest ht ih =>
    rw [visits_cons_leaf ht] at h
    cases us with
    | nil =>
      obtain ⟨rfl, rfl⟩ := List.cons.inj h
      cases rest with
      | nil => cases hnext
      | cons u rest =>
        obtain rfl : u = n := Option.some.inj hnext
        exact ⟨_, _, visits_cons_leaf hleaf rest, rfl⟩
    | cons u us => exact ih (List.cons.inj h).2

end Token

/-- What one token of a run printed, and the context it was printed in. -/
structure Emission where
  token : Token
  before : Context
  text : String

namespace Emission

def textOf (es : List Emission) : String := String.join (es.map Emission.text)

@[simp] theorem textOf_nil : textOf [] = "" := rfl

@[simp] theorem textOf_cons (e : Emission) (es : List Emission) :
    textOf (e :: es) = e.text ++ textOf es := by
  simp [textOf, String.join_cons]

@[simp] theorem textOf_append (es fs : List Emission) :
    textOf (es ++ fs) = textOf es ++ textOf fs := by
  simp [textOf, String.join_append]

theorem textOf_eq_empty_iff {es : List Emission} : textOf es = "" ↔ ∀ e ∈ es, e.text = "" := by
  induction es with
  | nil => simp
  | cons e es ih => rw [textOf_cons, String.append_eq_empty_iff, ih, List.forall_mem_cons]

end Emission

namespace Renderer
variable {r : Renderer} {c c' : Context} {es : List Emission}

/-- One step of a run. A raw text that turns out to be no text stops it. -/
def emit (r : Renderer) (v : Visit) (c : Context) : Except Failure (Emission × Context) :=
  match r.rule v.token v.next c with
  | .error e => .error e
  | .ok (piece, c') =>
    match piece.text? with
    | some text => .ok (⟨v.token, c, text⟩, c')
    | none => .error .wrongKind

/-- A run over visits, up to the first step that fails. -/
def emitAll (r : Renderer) : List Visit → Context → Except Failure (List Emission × Context)
  | [], c => .ok ([], c)
  | v :: rest, c =>
    match r.emit v c with
    | .error e => .error e
    | .ok (e, c) =>
      match emitAll r rest c with
      | .error e => .error e
      | .ok (es, c) => .ok (e :: es, c)

def emissions (r : Renderer) (tokens : List Token) (c : Context) :
    Except Failure (List Emission × Context) :=
  r.emitAll (Token.visits tokens) c

theorem emit_eq_ok_iff {v : Visit} {e : Emission} :
    r.emit v c = .ok (e, c') ↔ e.token = v.token ∧ e.before = c ∧
      ∃ piece, r.rule v.token v.next c = .ok (piece, c') ∧ piece.text? = some e.text := by
  obtain ⟨token, before, text⟩ := e
  unfold emit
  split
  · next h => simp [h]
  · next piece c₁ h =>
    split
    · next s hs =>
      constructor
      · intro he
        cases he
        exact ⟨rfl, rfl, piece, h, hs⟩
      · rintro ⟨rfl, rfl, piece', h', hs'⟩
        rw [h] at h'
        cases h'
        rw [hs] at hs'
        cases hs'
        rfl
    · next hs =>
      simp only [reduceCtorEq, false_iff]
      rintro ⟨-, -, piece', h', hs'⟩
      rw [h] at h'
      cases h'
      simp [hs] at hs'

@[simp] theorem emitAll_nil (c : Context) : r.emitAll [] c = .ok ([], c) := rfl

theorem emitAll_cons_eq_ok_iff {v : Visit} {vs : List Visit} :
    r.emitAll (v :: vs) c = .ok (es, c') ↔ ∃ e c₁ rest,
      r.emit v c = .ok (e, c₁) ∧ r.emitAll vs c₁ = .ok (rest, c') ∧ es = e :: rest := by
  simp only [emitAll]
  split
  · next h => simp [h]
  · next e c₁ h =>
    split
    · next h' => simp [h, h']
    · next rest c₂ h' =>
      constructor
      · intro he
        cases he
        exact ⟨e, c₁, rest, h, h', rfl⟩
      · rintro ⟨e', c', rest', h₁, h₂, rfl⟩
        rw [h] at h₁
        cases h₁
        rw [h'] at h₂
        cases h₂
        rfl

theorem emitAll_append_eq_ok_iff {vs ws : List Visit} :
    r.emitAll (vs ++ ws) c = .ok (es, c') ↔ ∃ fs c₁ gs,
      r.emitAll vs c = .ok (fs, c₁) ∧ r.emitAll ws c₁ = .ok (gs, c') ∧ es = fs ++ gs := by
  induction vs generalizing c es with
  | nil =>
    constructor
    · intro h
      exact ⟨[], c, es, rfl, h, rfl⟩
    · rintro ⟨_, _, gs, hf, hg, rfl⟩
      cases hf
      exact hg
  | cons v vs ih =>
    simp only [List.cons_append, emitAll_cons_eq_ok_iff, ih]
    constructor
    · rintro ⟨e, c₁, _, he, ⟨fs, c₂, gs, hf, hg, rfl⟩, rfl⟩
      exact ⟨e :: fs, c₂, gs, ⟨e, c₁, fs, he, hf, rfl⟩, hg, rfl⟩
    · rintro ⟨_, c₂, gs, ⟨e, c₁, fs, he, hf, rfl⟩, hg, rfl⟩
      exact ⟨e, c₁, fs ++ gs, he, ⟨fs, c₂, gs, hf, hg, rfl⟩, rfl⟩

/-- A part of the emissions of a run comes from a part of its visits. -/
theorem emitAll_eq_append {vs : List Visit} {fs gs : List Emission}
    (h : r.emitAll vs c = .ok (fs ++ gs, c')) :
    ∃ us ws c₁, vs = us ++ ws ∧ r.emitAll us c = .ok (fs, c₁) ∧ r.emitAll ws c₁ = .ok (gs, c') := by
  induction fs generalizing vs c with
  | nil => exact ⟨[], vs, c, rfl, rfl, h⟩
  | cons f fs ih =>
    cases vs with
    | nil => cases h
    | cons v vs =>
      obtain ⟨e, c₁, rest, he, hrest, hcons⟩ := emitAll_cons_eq_ok_iff.mp h
      cases hcons
      obtain ⟨us, ws, c₂, rfl, hfs, hgs⟩ := ih hrest
      exact ⟨v :: us, ws, c₂, rfl, emitAll_cons_eq_ok_iff.mpr ⟨f, c₁, fs, he, hfs, rfl⟩, hgs⟩

/-- An emission of a run is one step of it, between a run before and a run after. -/
theorem emitAll_eq_append_cons {vs : List Visit} {fs gs : List Emission} {e : Emission}
    (h : r.emitAll vs c = .ok (fs ++ e :: gs, c')) :
    ∃ us v ws c₁ c₂, vs = us ++ v :: ws ∧ r.emitAll us c = .ok (fs, c₁) ∧
      r.emit v c₁ = .ok (e, c₂) ∧ r.emitAll ws c₂ = .ok (gs, c') := by
  obtain ⟨us, ws, c₁, rfl, hfs, hgs⟩ := emitAll_eq_append h
  cases ws with
  | nil => cases hgs
  | cons v ws =>
    obtain ⟨e', c₂, rest, he, hrest, hcons⟩ := emitAll_cons_eq_ok_iff.mp hgs
    cases hcons
    exact ⟨us, v, ws, c₁, c₂, rfl, hfs, he, hrest⟩

/-- A run has one emission for each visit. -/
theorem map_token_of_emitAll {vs : List Visit} (h : r.emitAll vs c = .ok (es, c')) :
    es.map Emission.token = vs.map Visit.token := by
  induction vs generalizing c es with
  | nil =>
    cases h
    rfl
  | cons v vs ih =>
    obtain ⟨e, c₁, rest, he, hrest, rfl⟩ := emitAll_cons_eq_ok_iff.mp h
    simp [ih hrest, (emit_eq_ok_iff.mp he).1]

/-- Every emission of a run comes from the rule of its token. -/
theorem rule_of_mem_emitAll {vs : List Visit} (h : r.emitAll vs c = .ok (es, c'))
    {e : Emission} (he : e ∈ es) :
    ∃ next piece c₁, r.rule e.token next e.before = .ok (piece, c₁) ∧
      piece.text? = some e.text := by
  induction vs generalizing c es with
  | nil =>
    cases h
    exact absurd he List.not_mem_nil
  | cons v vs ih =>
    obtain ⟨f, c₁, rest, hf, hrest, rfl⟩ := emitAll_cons_eq_ok_iff.mp h
    rcases List.mem_cons.mp he with rfl | he
    · obtain ⟨ht, hb, piece, hrule, htext⟩ := emit_eq_ok_iff.mp hf
      exact ⟨v.next, piece, c₁, by rw [ht, hb, hrule], htext⟩
    · exact ih hrest he

/-! The text of a stream, rule by rule. -/

theorem join_cons_eq_ok_iff {d : Datum} {ds : List Datum} {out : String} :
    join (d :: ds) = .ok out ↔
      ∃ s rest, d.text? = some s ∧ join ds = .ok rest ∧ out = s ++ rest := by
  simp only [join]
  split
  · next h => simp [h]
  · next s h =>
    rw [map_eq_ok_iff]
    constructor
    · rintro ⟨rest, hrest, rfl⟩
      exact ⟨s, rest, h, hrest, rfl⟩
    · rintro ⟨s', rest, hs, hrest, rfl⟩
      obtain rfl : s = s' := Option.some.inj (h.symm.trans hs)
      exact ⟨rest, hrest, rfl⟩

theorem renderFrom_eq_ok_iff {tokens : List Token} {out : String} :
    r.renderFrom tokens c = .ok (out, c') ↔
      ∃ parts, r.pieces tokens c = .ok (parts, c') ∧ join parts = .ok out := by
  unfold renderFrom
  split
  · next h => simp [h]
  · next parts c₁ h =>
    rw [map_eq_ok_iff]
    constructor
    · rintro ⟨s, hs, he⟩
      cases he
      exact ⟨parts, h, hs⟩
    · rintro ⟨parts', hp, hout⟩
      rw [h] at hp
      cases hp
      exact ⟨out, hout, rfl⟩

theorem renderToken_leaf {t : Token} (h : t.kind ≠ .inline) (next : Option Token) (c : Context) :
    r.renderToken t next c = r.rule t next c := by
  cases t
  simp only at h
  simp only [renderToken, if_neg h]

theorem renderToken_inline {t : Token} (h : t.kind = .inline) (next : Option Token) (c : Context) :
    r.renderToken t next c = (fun p => (Datum.text p.1, p.2)) <$> r.renderFrom t.children c := by
  cases t
  simp only at h
  simp only [renderToken, if_pos h, renderFrom]
  split
  · rfl
  · next parts c₁ hp => cases join parts <;> rfl

theorem renderToken_inline_eq_ok_iff {t : Token} (h : t.kind = .inline) {next : Option Token}
    {piece : Datum} :
    r.renderToken t next c = .ok (piece, c') ↔
      ∃ s, r.renderFrom t.children c = .ok (s, c') ∧ piece = .text s := by
  rw [renderToken_inline h, map_eq_ok_iff]
  constructor
  · rintro ⟨p, hp, he⟩
    cases he
    exact ⟨p.1, hp, rfl⟩
  · rintro ⟨s, hs, rfl⟩
    exact ⟨(s, c'), hs, rfl⟩

theorem pieces_cons_eq_ok_iff {t : Token} {rest : List Token} {parts : List Datum} :
    r.pieces (t :: rest) c = .ok (parts, c') ↔ ∃ piece c₁ more,
      r.renderToken t rest.head? c = .ok (piece, c₁) ∧ r.pieces rest c₁ = .ok (more, c') ∧
        parts = piece :: more := by
  simp only [pieces]
  split
  · next h => simp [h]
  · next piece c₁ h =>
    split
    · next h' => simp [h, h']
    · next more c₂ h' =>
      constructor
      · intro ho
        cases ho
        exact ⟨piece, c₁, more, h, h', rfl⟩
      · rintro ⟨piece', c₁', more', h₁, h₂, rfl⟩
        rw [h] at h₁
        cases h₁
        rw [h'] at h₂
        cases h₂
        rfl

theorem renderFrom_cons_eq_ok_iff {t : Token} {rest : List Token} {out : String} :
    r.renderFrom (t :: rest) c = .ok (out, c') ↔ ∃ piece c₁ s tail,
      r.renderToken t rest.head? c = .ok (piece, c₁) ∧ piece.text? = some s ∧
        r.renderFrom rest c₁ = .ok (tail, c') ∧ out = s ++ tail := by
  simp only [renderFrom_eq_ok_iff, pieces_cons_eq_ok_iff]
  constructor
  · rintro ⟨_, ⟨piece, c₁, more, ht, hp, rfl⟩, hj⟩
    obtain ⟨s, tail, hs, htail, rfl⟩ := join_cons_eq_ok_iff.mp hj
    exact ⟨piece, c₁, s, tail, ht, hs, ⟨more, hp, htail⟩, rfl⟩
  · rintro ⟨piece, c₁, s, tail, ht, hs, ⟨more, hp, htail⟩, rfl⟩
    exact ⟨piece :: more, ⟨piece, c₁, more, ht, hp, rfl⟩,
      join_cons_eq_ok_iff.mpr ⟨s, tail, hs, htail, rfl⟩⟩

/-- A stream renders exactly if its run succeeds, and then to the texts of the run. -/
theorem renderFrom_eq_ok_iff_emissions {tokens : List Token} {out : String} :
    r.renderFrom tokens c = .ok (out, c') ↔
      ∃ es, r.emissions tokens c = .ok (es, c') ∧ out = Emission.textOf es := by
  unfold emissions
  induction tokens using Token.stream_induction generalizing c c' out with
  | nil =>
    constructor
    · intro h
      cases h
      exact ⟨[], rfl, rfl⟩
    · rintro ⟨es, h, rfl⟩
      cases h
      rfl
  | inline t rest ht ihc ihr =>
    simp only [renderFrom_cons_eq_ok_iff, renderToken_inline_eq_ok_iff ht,
      Token.visits_cons_inline ht, emitAll_append_eq_ok_iff, ihc, ihr]
    constructor
    · rintro ⟨_, c₁, _, _, ⟨_, ⟨fs, hf, rfl⟩, rfl⟩, hs, ⟨gs, hg, rfl⟩, rfl⟩
      cases hs
      exact ⟨fs ++ gs, ⟨fs, c₁, gs, hf, hg, rfl⟩, (Emission.textOf_append fs gs).symm⟩
    · rintro ⟨_, ⟨fs, c₁, gs, hf, hg, rfl⟩, rfl⟩
      exact ⟨_, c₁, _, _, ⟨_, ⟨fs, hf, rfl⟩, rfl⟩, rfl, ⟨gs, hg, rfl⟩,
        Emission.textOf_append fs gs⟩
  | leaf t rest ht ih =>
    simp only [renderFrom_cons_eq_ok_iff, renderToken_leaf ht, Token.visits_cons_leaf ht,
      emitAll_cons_eq_ok_iff, emit_eq_ok_iff, ih]
    constructor
    · rintro ⟨piece, c₁, s, _, hrule, hs, ⟨gs, hg, rfl⟩, rfl⟩
      exact ⟨⟨t, c, s⟩ :: gs, ⟨⟨t, c, s⟩, c₁, gs, ⟨rfl, rfl, piece, hrule, hs⟩, hg, rfl⟩,
        (Emission.textOf_cons ⟨t, c, s⟩ gs).symm⟩
    · rintro ⟨_, ⟨e, c₁, gs, ⟨-, -, piece, hrule, hs⟩, hg, rfl⟩, rfl⟩
      exact ⟨piece, c₁, e.text, _, hrule, hs, ⟨gs, hg, rfl⟩, Emission.textOf_cons e gs⟩

/-- A token whose rule prints the same in front of every other token prints that on every run. -/
theorem text_of_mem_emissions {tokens : List Token} (h : r.emissions tokens c = .ok (es, c'))
    {e : Emission} (he : e ∈ es) {text : String}
    (hrule : ∀ next, ∃ c₁, r.rule e.token next e.before = .ok (.text text, c₁)) :
    e.text = text := by
  obtain ⟨next, piece, c₁, hr, ht⟩ := rule_of_mem_emitAll h he
  obtain ⟨c₂, hr'⟩ := hrule next
  rw [hr] at hr'
  cases hr'
  exact (Option.some.inj ht).symm

end Renderer
end ChapterTex
