import Mathlib.Data.List.Induction
import ChapterTex.Proofs.Token.FrontEnds

/-!
Capitals in headings. A document with and without them gives the same token stream but for the texts
directly inside of the tokens of headings, of which the first one that is not empty opens the title.
-/
namespace ChapterTex

namespace Token

def writtenText? (t : Token) : Option String :=
  if t.kind = .text then t.content.text?.filter (· != "") else none

def isWritten (t : Token) : Bool := t.writtenText?.isSome

/-- A token directly inside of a heading. Only the content of a written text is not its own. -/
def titleSpan (opens : Bool) (t : Token) : Token :=
  match t.writtenText? with
  | some s => { t with content := .text (Title.capitalize s opens) }
  | none => t

/-- A token in a heading without and with capitals. They differ in nothing but the spans directly
inside, where a text opens the title if none is written before it. -/
structure Titled (plain titled : Token) : Prop where
  frame : titled = { plain with children := titled.children }
  length : titled.children.length = plain.children.length
  span : ∀ j u, plain.children[j]? = some u →
    titled.children[j]? = some (titleSpan (!(plain.children.take j).any isWritten) u)

variable {t : Token} {tokens : List Token}

theorem capitalizeTexts_cons {s : String} (hs : t.content = .text s) (first : Bool)
    (rest : List Token) :
    capitalizeTexts first (t :: rest) =
      titleSpan first t :: capitalizeTexts (first && !isWritten t) rest := by
  rw [capitalizeTexts, titleSpan, isWritten]
  by_cases hk : t.kind = .text
  · by_cases hempty : s = ""
    · have hnone : t.writtenText? = none := by simp [writtenText?, hk, hs, hempty, Option.filter]
      simp [hk, hs, hempty, hnone]
    · have hsome : t.writtenText? = some s := by simp [writtenText?, hk, hs, hempty, Option.filter]
      simp [hk, hs, hempty, hsome]
  · have hnone : t.writtenText? = none := by simp [writtenText?, hk]
    split
    · next hk' _ => exact absurd hk' hk
    · simp [hnone]

/-- The spans of a title one by one, behind spans that opened it or not. -/
theorem getElem?_capitalizeTexts (htexts : ∀ t ∈ tokens, ∃ s, t.content = .text s) (first : Bool)
    (j : Nat) :
    (capitalizeTexts first tokens)[j]? =
      tokens[j]?.map (titleSpan (first && !(tokens.take j).any isWritten)) := by
  induction tokens generalizing first j with
  | nil => rfl
  | cons t rest ih =>
    obtain ⟨⟨s, hs⟩, hrest⟩ := List.forall_mem_cons.mp htexts
    rw [capitalizeTexts_cons hs]
    cases j with
    | zero => simp
    | succ j =>
      rw [List.getElem?_cons_succ, List.getElem?_cons_succ, ih hrest, List.take_succ_cons,
        List.any_cons, Bool.not_or, Bool.and_assoc]

theorem length_capitalizeTexts (htexts : ∀ t ∈ tokens, ∃ s, t.content = .text s) (first : Bool) :
    (capitalizeTexts first tokens).length = tokens.length := by
  induction tokens generalizing first with
  | nil => rfl
  | cons t rest ih =>
    obtain ⟨⟨s, hs⟩, hrest⟩ := List.forall_mem_cons.mp htexts
    rw [capitalizeTexts_cons hs, List.length_cons, List.length_cons, ih hrest]

theorem titled_capitalized (htexts : ∀ u ∈ t.children, ∃ s, u.content = .text s) :
    Titled t t.capitalized where
  frame := rfl
  length := length_capitalizeTexts htexts true
  span j u hu := by
    have hspan := getElem?_capitalizeTexts htexts true j
    rwa [hu, Option.map_some, Bool.true_and] at hspan

end Token

namespace Markdown

def isHeadingMark (t : Token) : Bool := t.kind == "heading_open" || t.kind == "heading_close"

/-- Whether the last mark of a heading among some tokens is an opening. -/
def endsInHeading (ts : List Token) : Bool :=
  (ts.filter isHeadingMark).getLast?.any fun t => t.kind == "heading_open"

theorem endsInHeading_concat (ts : List Token) (t : Token) :
    endsInHeading (ts ++ [t]) = headingAfter (endsInHeading ts) t := by
  unfold endsInHeading headingAfter
  rw [List.filter_append]
  by_cases hopen : t.kind = "heading_open"
  · simp [isHeadingMark, hopen]
  · by_cases hclose : t.kind = "heading_close"
    · simp [isHeadingMark, hclose]
    · simp [isHeadingMark, hopen, hclose]

theorem foldl_headingAfter (ts : List Token) : ts.foldl headingAfter false = endsInHeading ts := by
  induction ts using List.reverseRecOn with
  | nil => rfl
  | append_singleton ts t ih =>
    rw [List.foldl_append, List.foldl_cons, List.foldl_nil, ih, endsInHeading_concat]

/-- The tokens of a stream of known kinds, some of them with capitals. -/
def adapted (capitals inHeading : Bool) : List Token → List ChapterTex.Token
  | [] => []
  | t :: rest =>
    let inHeading := headingAfter inHeading t
    (if inHeading && capitals then t.denoted.capitalized else t.denoted) ::
      adapted capitals inHeading rest

/-- Whether a stream can be adapted does not depend on capitals. -/
theorem adaptFrom_eq_outcome (capitals inHeading : Bool) (ts : List Token) :
    adaptFrom capitals inHeading ts =
      outcome (Token.postorderAll ts) (adapted capitals inHeading ts) := by
  induction ts generalizing inHeading with
  | nil => rfl
  | cons t rest ih =>
    rw [adaptFrom, ofMarkdown_eq_outcome, Token.postorderAll]
    refine outcome_bind ?_
    rw [ih, outcome_map, adapted]

theorem length_adapted (capitals inHeading : Bool) (ts : List Token) :
    (adapted capitals inHeading ts).length = ts.length := by
  induction ts generalizing inHeading with
  | nil => rfl
  | cons t rest ih => rw [adapted, List.length_cons, List.length_cons, ih]

theorem getElem?_adapted (capitals inHeading : Bool) (ts : List Token) (i : Nat) :
    (adapted capitals inHeading ts)[i]? = ts[i]?.map fun t =>
      if (ts.take (i + 1)).foldl headingAfter inHeading && capitals then t.denoted.capitalized
      else t.denoted := by
  induction ts generalizing inHeading i with
  | nil => rfl
  | cons t rest ih =>
    rw [adapted, List.take_succ_cons, List.foldl_cons]
    cases i with
    | zero => rw [List.getElem?_cons_zero, List.getElem?_cons_zero]; rfl
    | succ i => rw [List.getElem?_cons_succ, List.getElem?_cons_succ, ih]

theorem text_of_denoted (t : Token) : ∀ u ∈ t.denoted.children, ∃ s, u.content = .text s := by
  have hall : ∀ ts : List Token, ∀ u ∈ Token.denotedAll ts, ∃ s, u.content = .text s := by
    intro ts
    induction ts with
    | nil => simp [Token.denotedAll]
    | cons t rest ih =>
      rw [Token.denotedAll, List.forall_mem_cons, Token.denoted_eq]
      exact ⟨⟨t.content, rfl⟩, ih⟩
  rw [Token.denoted_eq]
  exact hall t.children

/-- Capitals change nothing but the texts of headings. With and without them a stream fails at the
same unknown kind, or it gives the same tokens, except that those in a heading are titled. -/
theorem capitals_change_only_headings (ts : List Token) :
    (∃ kind, adapt true ts = .error (.unknownToken kind) ∧
        adapt false ts = .error (.unknownToken kind)) ∨
      ∃ plain titled, adapt false ts = .ok plain ∧ adapt true ts = .ok titled ∧
        plain.length = ts.length ∧ titled.length = ts.length ∧
        ∀ i p q, plain[i]? = some p → titled[i]? = some q →
          if endsInHeading (ts.take (i + 1)) then p.Titled q else q = p := by
  unfold adapt
  rw [adaptFrom_eq_outcome, adaptFrom_eq_outcome]
  unfold outcome
  cases firstUnknown? (Token.postorderAll ts) with
  | some kind => exact .inl ⟨kind, rfl, rfl⟩
  | none =>
    refine .inr ⟨_, _, rfl, rfl, length_adapted _ _ ts, length_adapted _ _ ts, ?_⟩
    intro i p q hp hq
    rw [getElem?_adapted, Option.map_eq_some_iff] at hp hq
    obtain ⟨t, ht, rfl⟩ := hp
    obtain ⟨t', ht', rfl⟩ := hq
    obtain rfl : t = t' := Option.some.inj (ht.symm.trans ht')
    rw [foldl_headingAfter, Bool.and_true, Bool.and_false]
    split
    · exact ChapterTex.Token.titled_capitalized (text_of_denoted t)
    · rfl

end Markdown
end ChapterTex
