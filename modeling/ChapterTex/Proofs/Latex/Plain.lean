import ChapterTex.Proofs.Latex.Braces

/-!
Plain values, which hold no text that is already escaped. What is printed of them by way of the
escaper is neutral, whatever their texts are.
-/
namespace ChapterTex
namespace Datum

mutual

/-- Whether a value holds no escaped text at any depth. -/
def isPlain : Datum → Bool
  | latex _ => false
  | list items | tuple items => allPlain items
  | dict fields => fieldsPlain fields
  | _ => true

def allPlain : List Datum → Bool
  | [] => true
  | d :: rest => isPlain d && allPlain rest

def fieldsPlain : List (String × Datum) → Bool
  | [] => true
  | (_, d) :: rest => isPlain d && fieldsPlain rest

end

variable {d : Datum} {items : List Datum}

theorem isPlain_of_mem (h : allPlain items = true) (hd : d ∈ items) : d.isPlain = true := by
  induction items with
  | nil => exact absurd hd List.not_mem_nil
  | cons item rest ih =>
    obtain ⟨hitem, hrest⟩ : item.isPlain = true ∧ allPlain rest = true := by
      simpa [allPlain] using h
    rcases List.mem_cons.mp hd with rfl | hd
    · exact hitem
    · exact ih hrest hd

theorem isPlain_field? {fields : Record Datum} (h : fieldsPlain fields = true) (name : String) :
    (field? fields name).isPlain = true := by
  unfold field?
  induction fields with
  | nil => rfl
  | cons entry rest ih =>
    obtain ⟨n, d⟩ := entry
    obtain ⟨hd, hrest⟩ : d.isPlain = true ∧ fieldsPlain rest = true := by
      simpa [fieldsPlain] using h
    rw [Record.get?_cons]
    by_cases hn : name == n
    · rw [if_pos hn]
      exact hd
    · rw [if_neg hn]
      exact ih hrest

end Datum

namespace Latex
variable {d : Datum}

theorem neutral_escapeChar (c : Char) : Neutral (escapeChar c) := by
  have hreserved : ∀ c ∈ reserved, Neutral (sequence c) := by
    simp only [reserved, List.forall_mem_cons, List.not_mem_nil, false_implies, implies_true]
    decide
  unfold escapeChar
  by_cases hc : isReserved c
  · rw [if_pos hc]
    exact hreserved c (List.contains_iff_mem.mp hc)
  · have hinert : Inert [c] := by
      intro e he
      obtain rfl := List.mem_singleton.mp he
      refine ⟨?_, ?_, ?_⟩ <;>
        · rintro rfl
          exact hc (by decide)
    rw [if_neg hc]
    exact hinert.neutral

/-- Whatever a text is, its escaped form is neutral. -/
theorem neutral_escape (s : String) : Neutral (escape s).toList := by
  rw [toList_escape, escapeChars, List.flatMap_def]
  refine neutral_flatten fun text htext => ?_
  obtain ⟨c, -, rfl⟩ := List.mem_map.mp htext
  exact neutral_escapeChar c

/-- The escaper for code changes nothing for braces. -/
theorem imitates_verbatimChar (c : Char) : BraceScan.Imitates (verbatimChar c) c := by
  unfold verbatimChar
  by_cases hc : c == '`'
  · obtain rfl : c = '`' := by simpa using hc
    rintro ⟨depth, escaped⟩
    cases escaped <;> simp [BraceScan.step, BraceScan.StaysAbove, braceValue]
  · rw [if_neg hc]
    exact BraceScan.imitates_self c

theorem neutral_escapeVerbatim {s : String} (h : Neutral s.toList) :
    Neutral (escapeVerbatim s).toList := by
  rw [escapeVerbatim, String.toList_ofList, verbatimChars]
  exact h.flatMap imitates_verbatimChar

theorem neutral_display_of_escapeDatum {e : Datum} (hd : d.isPlain = true)
    (h : escapeDatum d = .ok e) : Neutral e.display.toList := by
  cases d with
  | text s =>
    cases h
    rw [Datum.display_latex]
    exact neutral_escape s
  | latex s => cases hd
  | _ => cases h

/-! Terms of the index. -/

/-- The levels of a term. A value that is no sequence is its own only level. -/
def termLevels : Datum → List Datum
  | .list levels | .tuple levels => levels
  | d => [d]

/-- The texts of the levels with `!` between them, none of them escaped. -/
def sourceText (term : Datum) : String := "!".intercalate ((termLevels term).map Datum.display)

def IsUnmarked (term : Datum) : Prop := ∀ level ∈ termLevels term, ∀ s, level ≠ .latex s

variable {term level : Datum}

theorem termText_eq (term : Datum) :
    termText term = "!".intercalate ((termLevels term).map levelText) := by
  cases term <;> simp [termText, termLevels]

theorem levelText_of_ne_latex (h : ∀ s, level ≠ .latex s) :
    levelText level = escape level.display := by
  cases level with
  | latex s => exact absurd rfl (h s)
  | _ => rfl

/-- The separator of levels is not reserved, so escaping passes over it. -/
theorem escape_intercalate (texts : List String) :
    escape ("!".intercalate texts) = "!".intercalate (texts.map escape) := by
  induction texts with
  | nil => rfl
  | cons text rest ih =>
    by_cases hne : rest = []
    · simp [hne, String.intercalate_singleton]
    · have hbang : escape "!" = "!" := by decide
      rw [List.map_cons, String.intercalate_cons_of_ne_nil hne,
        String.intercalate_cons_of_ne_nil (by simpa using hne), escape_append, escape_append, ih,
        hbang]

theorem map_levelText_of_isUnmarked (h : IsUnmarked term) :
    (termLevels term).map levelText = (termLevels term).map fun level => escape level.display :=
  List.map_congr_left fun level hlevel => levelText_of_ne_latex (h level hlevel)

theorem termText_of_isUnmarked (h : IsUnmarked term) :
    termText term = escape (sourceText term) := by
  rw [termText_eq, sourceText, escape_intercalate, List.map_map, map_levelText_of_isUnmarked h]
  rfl

theorem isUnmarked_of_isPlain (h : term.isPlain = true) : IsUnmarked term := by
  rintro _ hlevel s rfl
  have hmarked : (Datum.latex s).isPlain = true := by
    cases term with
    | list levels | tuple levels => exact Datum.isPlain_of_mem h hlevel
    | _ => rwa [List.mem_singleton.mp hlevel]
  cases hmarked

theorem neutral_termText (h : term.isPlain = true) : Neutral (termText term).toList := by
  rw [termText_of_isUnmarked (isUnmarked_of_isPlain h)]
  exact neutral_escape _

theorem neutral_indexEntries {terms : List Datum} (h : Datum.allPlain terms = true) :
    Neutral (indexEntries terms).toList := by
  rw [indexEntries, String.toList_join, List.flatMap_def]
  refine neutral_flatten fun text htext => ?_
  simp only [List.map_map, List.mem_map, Function.comp_apply] at htext
  obtain ⟨term, hterm, rfl⟩ := htext
  have hopen : Weighs 1 "\\index\x7b".toList := by decide
  rw [indexEntry, String.toList_append, String.toList_append]
  exact hopen.braced (neutral_termText (Datum.isPlain_of_mem h hterm)) (by decide)

theorem neutral_indexSee {term target : Datum} (hterm : term.isPlain = true)
    (htarget : target.isPlain = true) : Neutral (indexSee term target).toList := by
  have hopen : Weighs 1 "\\index\x7b".toList := by decide
  have hsee : Weighs 1 "|see\x7b".toList := by decide
  have hclose : Weighs (-2) "\x7d\x7d".toList := by decide
  have hfirst := hopen.append_neutral (neutral_termText hterm)
  have hboth := (hfirst.append hsee (Or.inl (by decide))).append_neutral (neutral_termText htarget)
  simp only [indexSee, String.toList_append]
  exact hboth.append hclose (Or.inr (by decide))

end Latex
end ChapterTex
