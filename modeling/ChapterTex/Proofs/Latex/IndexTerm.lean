import Mathlib.Data.List.Chain
import ChapterTex.Proofs.Latex.Decoding
import ChapterTex.Proofs.Latex.Plain
import ChapterTex.Proofs.Text.Pieces

/-!
Reading index terms back from directives. A term is printed as the escaped form of its levels with
`!` between them, so what can be read back is that text; the levels themselves are lost where a
level holds a `!` of its own. Escaped text has no brace that a reader of directives could take for
one of theirs.
-/
namespace ChapterTex.Latex

/-- A level that is marked as escaped is the escaped form of some text. -/
def IsWellMarked (term : Datum) : Prop :=
  ∀ level ∈ termLevels term, ∀ s, level = .latex s → ∃ source, escape source = s

/-- A level, or its escaped form. -/
def EscapesTo (level shown : Datum) : Prop := shown = level ∨ shown = .latex (escape level.display)

variable {term other level d : Datum} {s t : List Char}

theorem termText_eq_iff (h : IsUnmarked term) (h' : IsUnmarked other) :
    termText term = termText other ↔ sourceText term = sourceText other := by
  rw [termText_of_isUnmarked h, termText_of_isUnmarked h']
  exact escape_injective.eq_iff

theorem IsUnmarked.isWellMarked (h : IsUnmarked term) : IsWellMarked term :=
  fun level hlevel s hs => absurd hs (h level hlevel s)

/-- The term is the escaped form of some text, whichever of its levels are escaped already. -/
theorem IsWellMarked.exists_escape (h : IsWellMarked term) :
    ∃ source, escape source = termText term := by
  have hlevels : ∀ level ∈ termLevels term, ∃ source, escape source = levelText level := by
    intro level hlevel
    cases level with
    | latex s => exact h _ hlevel s rfl
    | _ => exact ⟨_, rfl⟩
  choose! source hsource using hlevels
  refine ⟨"!".intercalate ((termLevels term).map source), ?_⟩
  rw [termText_eq, escape_intercalate, List.map_map]
  exact congrArg _ (List.map_congr_left hsource)

/-- Escaping levels that are not escaped yet, in advance, makes no difference. -/
theorem EscapesTo.levelText_eq {shown : Datum} (h : EscapesTo level shown)
    (hlevel : ∀ s, level ≠ .latex s) : levelText shown = levelText level := by
  rcases h with rfl | rfl
  · rfl
  · rw [levelText_latex, levelText_of_ne_latex hlevel]

theorem map_levelText_of_escapesTo {levels shown : List Datum} (h : levels.Forall₂ EscapesTo shown)
    (hplain : ∀ level ∈ levels, ∀ s, level ≠ .latex s) :
    shown.map levelText = levels.map levelText := by
  induction h with
  | nil => rfl
  | cons hhead _ ih =>
    obtain ⟨hlevel, hrest⟩ := List.forall_mem_cons.mp hplain
    rw [List.map_cons, List.map_cons, hhead.levelText_eq hlevel, ih hrest]

theorem exists_of_escapesTo {levels shown : List Datum} (h : levels.Forall₂ EscapesTo shown)
    (hd : d ∈ shown) : ∃ level ∈ levels, EscapesTo level d := by
  induction h with
  | nil => cases hd
  | cons hhead _ ih =>
    rcases List.mem_cons.mp hd with rfl | hd
    · exact ⟨_, List.mem_cons_self, hhead⟩
    · obtain ⟨level, hlevel, hshown⟩ := ih hd
      exact ⟨level, List.mem_cons_of_mem _ hlevel, hshown⟩

theorem isWellMarked_of_escapesTo (h : (termLevels term).Forall₂ EscapesTo (termLevels other))
    (hterm : IsUnmarked term) : IsWellMarked other := by
  rintro _ hshown s rfl
  obtain ⟨level, hlevel, hsame | hescaped⟩ := exists_of_escapesTo h hshown
  · exact absurd hsame.symm (hterm level hlevel s)
  · exact ⟨level.display, (Datum.latex.inj hescaped).symm⟩

theorem termText_eq_of_escapesTo (h : (termLevels term).Forall₂ EscapesTo (termLevels other))
    (hterm : IsUnmarked term) : termText other = termText term := by
  rw [termText_eq, termText_eq, map_levelText_of_escapesTo h hterm]

/-! Splitting a term into its levels. -/

/-- Splits a term at each separator and reads the parts as escaped text. -/
def readLevels (term : String) : List (Option String) :=
  (term.toList.splitOn '!').map fun part => decode (String.ofList part)

theorem bang_mem_escapeChars_iff : '!' ∈ escapeChars s ↔ '!' ∈ s := by
  have hwords : ∀ entry ∈ codewords, '!' ∉ entry.1 := by decide
  constructor
  · intro h
    obtain ⟨c, hc, hbang⟩ := List.mem_flatMap.mp h
    by_cases hreserved : isReserved c
    · rw [escapeChar, if_pos hreserved] at hbang
      exact absurd hbang (hwords _ (mem_codewords_iff.mpr ⟨hreserved, rfl⟩))
    · rw [escapeChar, if_neg hreserved] at hbang
      rwa [List.mem_singleton.mp hbang]
  · intro h
    exact List.mem_flatMap.mpr ⟨'!', h, by decide⟩

theorem readLevels_eq_iff (h : IsUnmarked term) :
    readLevels (termText term) = (termLevels term).map (fun level => some level.display) ↔
      termLevels term ≠ [] ∧ ∀ level ∈ termLevels term, '!' ∉ level.display.toList := by
  constructor
  · intro hread
    constructor
    · intro hnone
      rw [hnone, List.map_nil, readLevels, List.map_eq_nil_iff] at hread
      exact List.splitOn_ne_nil _ _ hread
    · intro level hlevel
      have hmem : some level.display ∈ readLevels (termText term) := by
        rw [hread]
        exact List.mem_map_of_mem hlevel
      obtain ⟨part, hpart, hdecode⟩ := List.mem_map.mp hmem
      have hescape : escapeChars level.display.toList = part := by
        rw [← toList_escape, decode_eq_some_iff.mp hdecode, String.toList_ofList]
      rw [← bang_mem_escapeChars_iff, hescape]
      exact Text.not_mem_of_mem_splitOn hpart
  · rintro ⟨hne, hbang⟩
    have hparts : (termText term).toList.splitOn '!' =
        (termLevels term).map fun level => (escape level.display).toList := by
      rw [termText_eq, map_levelText_of_isUnmarked h, String.toList_intercalate, List.map_map]
      refine List.splitOn_intercalate '!' ?_ (by simpa using hne)
      intro part hpart
      obtain ⟨level, hlevel, rfl⟩ := List.mem_map.mp hpart
      rw [Function.comp_apply, toList_escape, bang_mem_escapeChars_iff]
      exact hbang level hlevel
    rw [readLevels, hparts, List.map_map]
    refine List.map_congr_left fun level _ => ?_
    rw [Function.comp_apply, String.ofList_toList, decode_escape]

/-! Finding the terms of a sequence of directives. -/

/-- Reads a group from behind its opening brace up to the brace that closes it. -/
def groupFrom? (s : BraceScan) : List Char → Option (List Char × List Char)
  | [] => none
  | c :: rest =>
    if s = {} ∧ c = '}' then some ([], rest)
    else (groupFrom? (s.step c) rest).map fun p => (c :: p.1, p.2)

theorem length_lt_of_groupFrom? {scan : BraceScan} {group rest : List Char}
    (h : groupFrom? scan s = some (group, rest)) : rest.length < s.length := by
  induction s generalizing scan group with
  | nil => cases h
  | cons c s ih =>
    rw [groupFrom?] at h
    split at h
    · cases h
      exact Nat.lt_succ_self _
    · obtain ⟨p, hp, heq⟩ := Option.map_eq_some_iff.mp h
      cases heq
      exact Nat.lt_succ_of_lt (ih hp)

def entryOpening : List Char := "\\index\x7b".toList

/-- Reads an index directive from its start. -/
def entryFrom? (text : List Char) : Option (List Char × List Char) :=
  if entryOpening.isPrefixOf text then groupFrom? {} (text.drop entryOpening.length) else none

theorem length_lt_of_entryFrom? {group rest : List Char} (h : entryFrom? s = some (group, rest)) :
    rest.length < s.length := by
  unfold entryFrom? at h
  split at h
  · have hgroup := length_lt_of_groupFrom? h
    rw [List.length_drop] at hgroup
    omega
  · cases h

/-- The groups of a text that is a sequence of index directives. -/
def readEntries? (text : List Char) : Option (List (List Char)) :=
  if text = [] then some []
  else
    match _h : entryFrom? text with
    | none => none
    | some (group, rest) => (readEntries? rest).map (group :: ·)
termination_by text.length
decreasing_by exact length_lt_of_entryFrom? _h

/-- A group ends at the brace behind it, if no brace within the group closes more than it opened. -/
theorem groupFrom?_append {scan : BraceScan} {group : List Char} (hrun : scan.run group = {})
    (hstays : scan.StaysAbove 0 group) (rest : List Char) :
    groupFrom? scan (group ++ '}' :: rest) = some (group, rest) := by
  induction group generalizing scan with
  | nil =>
    obtain rfl : scan = {} := hrun
    rfl
  | cons c group ih =>
    have hopen : ¬ (scan = {} ∧ c = '}') := by
      rintro ⟨rfl, rfl⟩
      exact absurd hstays.2.le_depth (by decide)
    rw [List.cons_append, groupFrom?, if_neg hopen, ih hrun hstays.2, Option.map_some]

theorem entryFrom?_append {group : List Char} (h : Neutral group) (rest : List Char) :
    entryFrom? (entryOpening ++ (group ++ '}' :: rest)) = some (group, rest) := by
  have hstays : BraceScan.StaysAbove 0 {} group := h.staysAbove
  rw [entryFrom?, if_pos (List.isPrefixOf_iff_prefix.mpr (List.prefix_append _ _)), List.drop_left,
    groupFrom?_append h.run_eq hstays]

theorem readEntries?_append {group : List Char} (h : Neutral group) (rest : List Char) :
    readEntries? (entryOpening ++ (group ++ '}' :: rest)) =
      (readEntries? rest).map (group :: ·) := by
  have hentry := entryFrom?_append h rest
  rw [readEntries?, if_neg (by simp)]
  split
  case h_1 hnone =>
    rw [hentry] at hnone
    cases hnone
  case h_2 hsome =>
    rw [hentry] at hsome
    cases hsome
    rfl

theorem readEntries?_indexEntries {terms : List Datum}
    (h : ∀ term ∈ terms, Neutral (termText term).toList) :
    readEntries? (indexEntries terms).toList =
      some (terms.map fun term => (termText term).toList) := by
  induction terms with
  | nil =>
    have hnone : (indexEntries []).toList = [] := rfl
    rw [hnone, readEntries?, if_pos rfl, List.map_nil]
  | cons term terms ih =>
    obtain ⟨hterm, hterms⟩ := List.forall_mem_cons.mp h
    have hentries : (indexEntries (term :: terms)).toList =
        entryOpening ++ ((termText term).toList ++ '}' :: (indexEntries terms).toList) := by
      simp only [indexEntries, indexEntry, List.map_cons, String.toList_join, List.flatMap_cons,
        String.toList_append, List.append_assoc]
      rfl
    rw [hentries, readEntries?_append hterm, ih hterms, Option.map_some, List.map_cons]

/-! Splitting a directive that sends the reader from one term to another. -/

def seeMark : List Char := "|see\x7b".toList

/-- Even behind an `e` the text shows no `e` with an opening brace behind it. -/
def AvoidsSee (text : List Char) : Prop := ('e' :: text).IsChain fun c d => ¬ (c = 'e' ∧ d = '{')

instance (text : List Char) : Decidable (AvoidsSee text) :=
  inferInstanceAs (Decidable (List.IsChain _ _))

theorem AvoidsSee.append (hs : AvoidsSee s) (ht : AvoidsSee t) : AvoidsSee (s ++ t) := by
  obtain ⟨hhead, htail⟩ := List.isChain_cons.mp ht
  rw [AvoidsSee, ← List.cons_append, List.isChain_append]
  refine ⟨hs, htail, ?_⟩
  rintro c - d hd ⟨-, hopen⟩
  exact hhead d hd ⟨rfl, hopen⟩

theorem AvoidsSee.getLast?_ne {before after : List Char} (h : AvoidsSee (before ++ '{' :: after)) :
    ('e' :: before).getLast? ≠ some 'e' := by
  rw [AvoidsSee, ← List.cons_append, List.isChain_append] at h
  intro hlast
  exact h.2.2 'e' hlast '{' rfl ⟨rfl, rfl⟩

theorem avoidsSee_escapeChar (c : Char) : AvoidsSee (escapeChar c) := by
  have hwords : ∀ entry ∈ codewords, AvoidsSee entry.1 := by decide
  obtain ⟨d, hd⟩ | ⟨d, hd, hself⟩ := isSymbol_iff.mpr ⟨c, rfl⟩
  · exact hwords _ hd
  · have hopen : d ≠ '{' := by
      rintro rfl
      cases hd
    rw [hself]
    simp [AvoidsSee, hopen]

theorem avoidsSee_escape (s : String) : AvoidsSee (escape s).toList := by
  rw [toList_escape]
  generalize s.toList = cs
  induction cs with
  | nil => decide
  | cons c cs ih =>
    rw [escapeChars_cons]
    exact (avoidsSee_escapeChar c).append ih

/-- The mark between two texts is found in one place only. -/
theorem split_at_see {a b before after : List Char} (ha : AvoidsSee a) (hb : AvoidsSee b)
    (h : a ++ (seeMark ++ b) = before ++ (seeMark ++ after)) : before = a ∧ after = b := by
  have hmark : ∀ u, seeMark ++ u = "|see".toList ++ '{' :: u := fun _ => rfl
  have hbraces : (a ++ "|see".toList) ++ '{' :: b = (before ++ "|see".toList) ++ '{' :: after := by
    simpa only [hmark, List.append_assoc] using h
  -- Where the two marks do not meet, the brace of one of them stands within `a` or within `b`.
  rcases List.append_eq_append_iff.mp hbraces with ⟨u, hfront, hback⟩ | ⟨u, hfront, hback⟩
  · cases u with
    | nil =>
      rw [List.append_nil, List.append_cancel_right_eq] at hfront
      exact ⟨hfront, (List.cons.inj hback).2.symm⟩
    | cons c u =>
      obtain ⟨rfl, rfl⟩ := List.cons.inj hback
      have hlast : ('e' :: u).getLast? = some 'e' := by
        cases u with
        | nil => rfl
        | cons d u => simpa using (congrArg List.getLast? hfront).symm
      exact absurd hlast hb.getLast?_ne
  · cases u with
    | nil =>
      rw [List.append_nil, List.append_cancel_right_eq] at hfront
      exact ⟨hfront.symm, (List.cons.inj hback).2⟩
    | cons c u =>
      obtain ⟨rfl, rfl⟩ := List.cons.inj hback
      have hlast : ('e' :: (before ++ "|see".toList)).getLast? = some 'e' := by
        rw [← List.cons_append, List.getLast?_append]
        rfl
      have hsee : AvoidsSee (a ++ "|see".toList) := ha.append (by decide)
      rw [hfront] at hsee
      exact absurd hlast hsee.getLast?_ne

theorem toList_indexSee (term target : Datum) :
    (indexSee term target).toList = entryOpening ++ (termText term).toList ++
      (seeMark ++ ((termText target).toList ++ "\x7d\x7d".toList)) := by
  simp only [indexSee, String.toList_append, List.append_assoc]
  rfl

theorem indexSee_eq_iff {target : Datum} (hterm : IsWellMarked term) (htarget : IsWellMarked target)
    {before after : List Char} :
    (indexSee term target).toList = before ++ (seeMark ++ after) ↔
      before = entryOpening ++ (termText term).toList ∧
        after = (termText target).toList ++ "\x7d\x7d".toList := by
  obtain ⟨source, hsource⟩ := hterm.exists_escape
  obtain ⟨targetSource, htargetSource⟩ := htarget.exists_escape
  have hopening : AvoidsSee entryOpening := by decide
  have hclosing : AvoidsSee "\x7d\x7d".toList := by decide
  rw [toList_indexSee, ← hsource, ← htargetSource]
  constructor
  · exact split_at_see (hopening.append (avoidsSee_escape source))
      ((avoidsSee_escape targetSource).append hclosing)
  · intro h
    rw [h.1, h.2]

theorem IsWellMarked.neutral (h : IsWellMarked term) : Neutral (termText term).toList := by
  obtain ⟨source, hsource⟩ := h.exists_escape
  rw [← hsource]
  exact neutral_escape source

/-- An index term keeps its source text, and directives keep their terms. Terms without escaped
levels are printed as the escaped form of that text, so they collide where their source texts are
equal and their levels can be told apart where no level holds a separator; levels that were escaped
in advance are printed the same. The terms are found in a sequence of directives by their braces,
and in a cross-reference by the mark between them, which occurs only once and not behind a
backslash. -/
theorem index_terms_read_back :
    (∀ term, IsUnmarked term → IsWellMarked term ∧ termText term = escape (sourceText term)) ∧
      (∀ p q, IsUnmarked p → IsUnmarked q →
        (termText p = termText q ↔ sourceText p = sourceText q)) ∧
      (∀ term, IsUnmarked term →
        (readLevels (termText term) = (termLevels term).map (fun level => some level.display) ↔
          termLevels term ≠ [] ∧ ∀ level ∈ termLevels term, '!' ∉ level.display.toList)) ∧
      (∀ p q, IsUnmarked p → (termLevels p).Forall₂ EscapesTo (termLevels q) →
        IsWellMarked q ∧ termText q = termText p) ∧
      (∀ term, termText (.latex (termText term)) = termText term) ∧
      (∀ terms : List Datum, (∀ term ∈ terms, IsWellMarked term) →
        readEntries? (indexEntries terms).toList =
          some (terms.map fun term => (termText term).toList)) ∧
      ∀ p q, IsWellMarked p → IsWellMarked q →
        (BraceScan.run {} (entryOpening ++ (termText p).toList)).escaped = false ∧
          ∀ before after, (indexSee p q).toList = before ++ (seeMark ++ after) ↔
            before = entryOpening ++ (termText p).toList ∧
              after = (termText q).toList ++ "\x7d\x7d".toList := by
  refine ⟨fun term h => ⟨h.isWellMarked, termText_of_isUnmarked h⟩, fun p q => termText_eq_iff,
    fun term => readLevels_eq_iff,
    fun p q hp h => ⟨isWellMarked_of_escapesTo h hp, termText_eq_of_escapesTo h hp⟩,
    fun term => rfl,
    fun terms h => readEntries?_indexEntries fun term hterm => (h term hterm).neutral,
    fun p q hp hq => ⟨?_, fun before after => indexSee_eq_iff hp hq⟩⟩
  have hopening : Weighs 1 entryOpening := by decide
  rw [(hopening.append_neutral hp.neutral).run_eq]

/-- Levels that look like parts of directives. -/
def entangledTerm : Datum := .list [.text "a|see\x7b", .null, .text "!\x7d\\"]

/-- The same term with some of its levels escaped in advance. -/
def escapedTerm : Datum := .tuple [.latex "a|see\\\x7b", .null, .text "!\x7d\\"]

theorem index_terms_read_back_entangled :
    IsUnmarked entangledTerm ∧
      (termLevels entangledTerm).Forall₂ EscapesTo (termLevels escapedTerm) ∧
      termText escapedTerm = termText entangledTerm ∧
      readLevels (termText entangledTerm) ≠
        (termLevels entangledTerm).map (fun level => some level.display) ∧
      readEntries? (indexEntries [entangledTerm, escapedTerm]).toList =
        some [(termText entangledTerm).toList, (termText escapedTerm).toList] ∧
      ∀ before after, (indexSee entangledTerm escapedTerm).toList = before ++ (seeMark ++ after) ↔
        before = "\\index\x7ba|see\\\x7b!None!!\\\x7d\\textbackslash ".toList ∧
          after = "a|see\\\x7b!None!!\\\x7d\\textbackslash \x7d\x7d".toList := by
  have hunmarked : IsUnmarked entangledTerm := by simp [IsUnmarked, entangledTerm, termLevels]
  have hescapes : (termLevels entangledTerm).Forall₂ EscapesTo (termLevels escapedTerm) :=
    .cons (.inr (congrArg Datum.latex (by decide +kernel)))
      (.cons (.inl rfl) (.cons (.inl rfl) .nil))
  obtain ⟨hplain, -, hlevels, hescaped, -, hentries, hsee⟩ := index_terms_read_back
  obtain ⟨hwell, htext⟩ := hescaped _ _ hunmarked hescapes
  obtain ⟨hwell', -⟩ := hplain _ hunmarked
  refine ⟨hunmarked, hescapes, htext, ?_, hentries _ (by simp [hwell, hwell']), ?_⟩
  · intro hread
    obtain ⟨-, hbang⟩ := (hlevels _ hunmarked).mp hread
    exact hbang (.text "!\x7d\\") (by simp [entangledTerm, termLevels]) (by decide)
  · intro before after
    have hterm : termText entangledTerm = "a|see\\\x7b!None!!\\\x7d\\textbackslash " := by
      decide +kernel
    rw [(hsee _ _ hwell' hwell).2, htext, hterm]
    rfl

end ChapterTex.Latex
