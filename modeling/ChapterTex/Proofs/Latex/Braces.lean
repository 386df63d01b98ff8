import Mathlib.Data.List.Basic
import ChapterTex.Latex.Index

/-!
Brace depth. A scan counts opening braces up and closing braces down, and passes over every
character after a backslash. A text weighs what it adds to the depth, if it does not reach below the
depths at its two ends.
-/
namespace ChapterTex.Latex

/-- A scan for braces: the depth, and whether the next character is passed over. -/
structure BraceScan where
  depth : Int := 0
  escaped : Bool := false
deriving Repr, DecidableEq

/-- What a character that is not passed over adds to the depth. -/
def braceValue (c : Char) : Int := if c = '{' then 1 else if c = '}' then -1 else 0

namespace BraceScan

def step (s : BraceScan) (c : Char) : BraceScan :=
  if s.escaped then ⟨s.depth, false⟩
  else if c = '\\' then ⟨s.depth, true⟩
  else ⟨s.depth + braceValue c, false⟩

def run (s : BraceScan) (text : List Char) : BraceScan := text.foldl step s

/-- The depth never is below `low` on the way through a text, its ends included. -/
def StaysAbove (low : Int) (s : BraceScan) : List Char → Prop
  | [] => low ≤ s.depth
  | c :: rest => low ≤ s.depth ∧ StaysAbove low (s.step c) rest

def lift (k : Int) (s : BraceScan) : BraceScan := ⟨k + s.depth, s.escaped⟩

variable {s : BraceScan} {low : Int} {a b : List Char}

@[simp] theorem run_nil (s : BraceScan) : s.run [] = s := rfl

@[simp] theorem run_cons (s : BraceScan) (c : Char) (text : List Char) :
    s.run (c :: text) = (s.step c).run text := rfl

@[simp] theorem run_append (s : BraceScan) (a b : List Char) :
    s.run (a ++ b) = (s.run a).run b := List.foldl_append

theorem step_lift (k : Int) (s : BraceScan) (c : Char) : (s.lift k).step c = (s.step c).lift k := by
  obtain ⟨depth, escaped⟩ := s
  cases escaped with
  | true => rfl
  | false =>
    by_cases hc : c = '\\'
    · simp [step, lift, hc]
    · simp [step, lift, hc, Int.add_assoc]

theorem run_lift (k : Int) (s : BraceScan) (text : List Char) :
    (s.lift k).run text = (s.run text).lift k := by
  induction text generalizing s with
  | nil => rfl
  | cons c text ih => rw [run_cons, step_lift, ih, run_cons]

theorem StaysAbove.le_depth (h : StaysAbove low s a) : low ≤ s.depth := by
  cases a with
  | nil => exact h
  | cons c rest => exact h.1

theorem StaysAbove.mono {low' : Int} (hle : low' ≤ low) (h : StaysAbove low s a) :
    StaysAbove low' s a := by
  induction a generalizing s with
  | nil => exact Int.le_trans hle h
  | cons c rest ih => exact ⟨Int.le_trans hle h.1, ih h.2⟩

theorem staysAbove_append :
    StaysAbove low s (a ++ b) ↔ StaysAbove low s a ∧ StaysAbove low (s.run a) b := by
  induction a generalizing s with
  | nil =>
    constructor
    · intro h
      exact ⟨h.le_depth, h⟩
    · intro h
      exact h.2
  | cons c rest ih => simp only [List.cons_append, StaysAbove, ih, run_cons, and_assoc]

theorem staysAbove_lift {k : Int} :
    StaysAbove low (s.lift k) a ↔ StaysAbove (low - k) s a := by
  induction a generalizing s with
  | nil =>
    simp only [StaysAbove, lift]
    omega
  | cons c rest ih =>
    have hdepth : low ≤ (s.lift k).depth ↔ low - k ≤ s.depth := by
      simp only [lift]
      omega
    simp only [StaysAbove, step_lift, ih, hdepth]

theorem staysAbove_iff_prefix :
    StaysAbove low s a ↔ ∀ p, p <+: a → low ≤ (s.run p).depth := by
  induction a generalizing s with
  | nil =>
    constructor
    · intro h p hp
      rw [List.prefix_nil.mp hp]
      exact h
    · intro h
      exact h [] List.nil_prefix
  | cons c rest ih =>
    constructor
    · intro h p hp
      rcases List.prefix_cons_iff.mp hp with rfl | ⟨q, rfl, hq⟩
      · exact h.1
      · exact ih.mp h.2 q hq
    · intro h
      refine ⟨h [] List.nil_prefix, ih.mpr ?_⟩
      intro q hq
      exact h (c :: q) (List.cons_prefix_cons.mpr ⟨rfl, hq⟩)

/-- What stands for a character does with a scan what the character does. -/
def Imitates (text : List Char) (c : Char) : Prop :=
  ∀ s : BraceScan, s.run text = s.step c ∧
    ∀ low, low ≤ s.depth → low ≤ (s.step c).depth → StaysAbove low s text

theorem imitates_self (c : Char) : Imitates [c] c := fun _ => ⟨rfl, fun _ hs hc => ⟨hs, hc⟩⟩

theorem run_flatMap {f : Char → List Char} (hf : ∀ c, Imitates (f c) c) (s : BraceScan)
    (a : List Char) : s.run (a.flatMap f) = s.run a := by
  induction a generalizing s with
  | nil => rfl
  | cons c rest ih => rw [List.flatMap_cons, run_append, (hf c s).1, ih, run_cons]

theorem StaysAbove.flatMap {f : Char → List Char} (hf : ∀ c, Imitates (f c) c)
    (h : StaysAbove low s a) : StaysAbove low s (a.flatMap f) := by
  induction a generalizing s with
  | nil => exact h
  | cons c rest ih =>
    rw [List.flatMap_cons, staysAbove_append, (hf c s).1]
    exact ⟨(hf c s).2 low h.1 h.2.le_depth, ih h.2⟩

instance (low : Int) (s : BraceScan) : ∀ a, Decidable (StaysAbove low s a)
  | [] => inferInstanceAs (Decidable (low ≤ s.depth))
  | c :: rest =>
    have := instDecidableStaysAbove low (s.step c) rest
    inferInstanceAs (Decidable (_ ∧ _))

end BraceScan

/-- A text of weight `w` takes a scan from the surface to depth `w` without reaching below these two
depths, and leaves no character to be passed over. -/
structure Weighs (w : Int) (text : List Char) : Prop where
  run_eq : BraceScan.run {} text = ⟨w, false⟩
  staysAbove : BraceScan.StaysAbove (min 0 w) {} text

/-- Text that a scan leaves as it was. -/
abbrev Neutral (text : List Char) : Prop := Weighs 0 text

/-- Text without characters that have a meaning for braces. -/
def Inert (text : List Char) : Prop := ∀ c ∈ text, c ≠ '{' ∧ c ≠ '}' ∧ c ≠ '\\'

instance (text : List Char) : Decidable (Inert text) :=
  List.decidableBAll (fun c => c ≠ '{' ∧ c ≠ '}' ∧ c ≠ '\\') text

namespace BraceScan

theorem step_of_inert {c : Char} (h : c ≠ '{' ∧ c ≠ '}' ∧ c ≠ '\\') (s : BraceScan) :
    s.step c = ⟨s.depth, false⟩ := by
  obtain ⟨hopen, hclose, hbackslash⟩ := h
  simp [step, braceValue, hopen, hclose, hbackslash]

theorem run_of_inert {u : List Char} (h : Inert u) (hne : u ≠ []) (s : BraceScan) :
    s.run u = ⟨s.depth, false⟩ := by
  induction u generalizing s with
  | nil => exact absurd rfl hne
  | cons c rest ih =>
    rw [run_cons, step_of_inert (h c List.mem_cons_self)]
    by_cases hrest : rest = []
    · rw [hrest, run_nil]
    · exact ih (fun d hd => h d (List.mem_cons_of_mem c hd)) hrest _

theorem staysAbove_of_inert {u : List Char} (h : Inert u) {s : BraceScan} {low : Int}
    (hlow : low ≤ s.depth) : StaysAbove low s u := by
  induction u generalizing s with
  | nil => exact hlow
  | cons c rest ih =>
    refine ⟨hlow, ?_⟩
    rw [step_of_inert (h c List.mem_cons_self)]
    exact ih (fun d hd => h d (List.mem_cons_of_mem c hd)) hlow

/-- Any text without meaning imitates any character without meaning. -/
theorem imitates_of_inert {u : List Char} (h : Inert u) (hne : u ≠ []) {c : Char}
    (hc : c ≠ '{' ∧ c ≠ '}' ∧ c ≠ '\\') : Imitates u c := by
  intro s
  rw [run_of_inert h hne, step_of_inert hc]
  exact ⟨rfl, fun low hs _ => staysAbove_of_inert h hs⟩

end BraceScan

variable {a b u v : List Char} {w x : Int}

instance (w : Int) (text : List Char) : Decidable (Weighs w text) :=
  decidable_of_iff (BraceScan.run {} text = ⟨w, false⟩ ∧ BraceScan.StaysAbove (min 0 w) {} text)
    ⟨fun h => ⟨h.1, h.2⟩, fun h => ⟨h.run_eq, h.staysAbove⟩⟩

theorem neutral_nil : Neutral [] := by decide

/-- A weight can be put on any depth. -/
theorem Weighs.run_at (h : Weighs w a) (k : Int) : BraceScan.run ⟨k, false⟩ a = ⟨k + w, false⟩ := by
  have hlift := BraceScan.run_lift k {} a
  rw [h.run_eq] at hlift
  simpa [BraceScan.lift] using hlift

theorem Weighs.staysAbove_at (h : Weighs w a) (k : Int) :
    BraceScan.StaysAbove (min k (k + w)) ⟨k, false⟩ a := by
  have hlift : BraceScan.StaysAbove (min k (k + w)) (BraceScan.lift k {}) a := by
    rw [BraceScan.staysAbove_lift]
    refine h.staysAbove.mono ?_
    omega
  simpa [BraceScan.lift] using hlift

/-- Weights add up, but for braces that are opened after others were closed. -/
theorem Weighs.append (ha : Weighs w a) (hb : Weighs x b) (hsigns : 0 ≤ w ∨ x ≤ 0) :
    Weighs (w + x) (a ++ b) := by
  have hrun := hb.run_at w
  have hstays := hb.staysAbove_at w
  constructor
  · rw [BraceScan.run_append, ha.run_eq, hrun]
  · rw [BraceScan.staysAbove_append, ha.run_eq]
    -- The lowest depths are at the ends, and with these signs the one in between is not below both.
    refine ⟨ha.staysAbove.mono ?_, hstays.mono ?_⟩ <;> omega

theorem Weighs.after_neutral (hb : Weighs w b) (ha : Neutral a) : Weighs w (a ++ b) := by
  simpa using Weighs.append ha hb (Or.inl (Int.le_refl 0))

theorem Weighs.append_neutral (ha : Weighs w a) (hb : Neutral b) : Weighs w (a ++ b) := by
  simpa using Weighs.append ha hb (Or.inr (Int.le_refl 0))

/-- Neutral text in braces is neutral. -/
theorem Weighs.braced (ha : Weighs 1 a) (hu : Neutral u) (hb : Weighs (-1) b) :
    Neutral (a ++ u ++ b) :=
  (ha.append_neutral hu).append hb (Or.inl (by decide))

theorem Inert.neutral (h : Inert u) : Neutral u := by
  refine ⟨?_, BraceScan.staysAbove_of_inert h (Int.le_refl 0)⟩
  by_cases hne : u = []
  · rw [hne]
    rfl
  · exact BraceScan.run_of_inert h hne {}

/-- Neutral text in front can be taken away. -/
theorem Weighs.of_neutral_append (h : Weighs w (u ++ a)) (hu : Neutral u) : Weighs w a := by
  have hrun := h.run_eq
  have hstays := h.staysAbove
  rw [BraceScan.run_append, hu.run_eq] at hrun
  rw [BraceScan.staysAbove_append, hu.run_eq] at hstays
  exact ⟨hrun, hstays.2⟩

/-- A suffix without meaning can be replaced by another one. -/
theorem Weighs.replace_suffix (h : Weighs w (a ++ u)) (hu : Inert u) (hune : u ≠ []) (hv : Inert v)
    (hvne : v ≠ []) : Weighs w (a ++ v) := by
  have hrun := h.run_eq
  have hstays := h.staysAbove
  rw [BraceScan.run_append, BraceScan.run_of_inert hu hune] at hrun
  rw [BraceScan.staysAbove_append] at hstays
  constructor
  · rw [BraceScan.run_append, BraceScan.run_of_inert hv hvne, hrun]
  · rw [BraceScan.staysAbove_append]
    exact ⟨hstays.1, BraceScan.staysAbove_of_inert hv hstays.2.le_depth⟩

theorem Weighs.flatMap {f : Char → List Char} (hf : ∀ c, BraceScan.Imitates (f c) c)
    (h : Weighs w a) : Weighs w (a.flatMap f) :=
  ⟨by rw [BraceScan.run_flatMap hf, h.run_eq], h.staysAbove.flatMap hf⟩

theorem neutral_flatten {texts : List (List Char)} (h : ∀ text ∈ texts, Neutral text) :
    Neutral texts.flatten := by
  induction texts with
  | nil => exact neutral_nil
  | cons text rest ih =>
    rw [List.flatten_cons]
    have hrest := ih fun t ht => h t (List.mem_cons_of_mem text ht)
    exact hrest.after_neutral (h text List.mem_cons_self)

end ChapterTex.Latex
