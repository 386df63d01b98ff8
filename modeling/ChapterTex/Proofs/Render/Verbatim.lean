import ChapterTex.Proofs.Render.Rules

/-!
Reading code back from the output. Inline code ends at its delimiter, and a listing at the first end
mark; the code that is read is the code that was printed, unless it disguises the one or contains
the other.
-/
namespace ChapterTex

/-- `kept` is a text without the blanks at its end. -/
def Text.IsTrimmed (s kept : List Char) : Prop :=
  ∃ blanks, s = kept ++ blanks ∧ (∀ c ∈ blanks, isBlank c = true) ∧
    ∀ c ∈ kept.getLast?, isBlank c = false

theorem Text.isTrimmed_trimEnd (s : List Char) : IsTrimmed s (trimEnd s) := by
  obtain ⟨blanks, hs, hblanks⟩ := trimEnd_append_blanks s
  exact ⟨blanks, hs, hblanks, fun c hc => isBlank_of_getLast?_trimEnd hc⟩

/-- A text that is kept cannot go on in the blanks of another one. -/
theorem Text.prefix_of_isTrimmed {s kept other : List Char} (h : IsTrimmed s kept)
    (h' : IsTrimmed s other) : kept <+: other := by
  obtain ⟨blanks, hs, -, hlast⟩ := h
  obtain ⟨blanks', hs', hblanks', -⟩ := h'
  rcases List.append_eq_append_iff.mp (hs.symm.trans hs') with ⟨u, rfl, -⟩ | ⟨u, rfl, hu⟩
  · exact List.prefix_append kept u
  · rcases List.eq_nil_or_concat u with rfl | ⟨u, c, rfl⟩
    · exact ⟨[], by simp⟩
    · have hblank : isBlank c = true := hblanks' c (by simp [hu])
      have hkept : isBlank c = false := hlast c (by simp)
      exact absurd hblank (by simp [hkept])

theorem Text.isTrimmed_iff {s kept : List Char} : IsTrimmed s kept ↔ trimEnd s = kept := by
  constructor
  · intro h
    have hfront := prefix_of_isTrimmed h (isTrimmed_trimEnd s)
    exact (prefix_of_isTrimmed (isTrimmed_trimEnd s) h).eq_of_length_le hfront.length_le
  · rintro rfl
    exact isTrimmed_trimEnd s

namespace Latex

/-- Reads inline code up to the bare backtick that ends it. A backtick behind a backslash is a part
of the code. -/
def readCode? : List Char → Option (List Char × List Char)
  | [] => none
  | '`' :: rest => some ([], rest)
  | '\\' :: '`' :: rest => (readCode? rest).map fun p => ('`' :: p.1, p.2)
  | c :: rest => (readCode? rest).map fun p => (c :: p.1, p.2)

/-- The text in front of the first occurrence of a mark. -/
def textBefore? (mark : List Char) : List Char → Option (List Char)
  | [] => none
  | c :: rest =>
    if mark.isPrefixOf (c :: rest) then some [] else (textBefore? mark rest).map (c :: ·)

def withoutFinalBreak (s : List Char) : List Char :=
  if s.getLast? = some '\n' then s.dropLast else s

def endMark : List Char := "\\end\x7blstlisting\x7d".toList

/-- Reads a listing up to the first end mark, which stands on a line of its own. -/
def readListing? (s : List Char) : Option (List Char) :=
  (textBefore? endMark s).map withoutFinalBreak

variable {s rest tail kept mark before : List Char} {c : Char}

theorem readCode?_cons (hc : c ≠ '`') (h : c = '\\' → rest.head? ≠ some '`') :
    readCode? (c :: rest) = (readCode? rest).map fun p => (c :: p.1, p.2) := by
  rw [readCode?]
  · exact hc
  · rintro tail rfl rfl
    exact h rfl rfl

theorem readCode?_escaped (rest : List Char) :
    readCode? ('\\' :: '`' :: rest) = (readCode? rest).map fun p => ('`' :: p.1, p.2) := rfl

theorem verbatimChars_cons (c : Char) (s : List Char) :
    verbatimChars (c :: s) = verbatimChar c ++ verbatimChars s := List.flatMap_cons

/-- No escaped code starts with a bare backtick. -/
theorem head?_verbatimChars_append (h : s = [] → tail.head? ≠ some '`') :
    (verbatimChars s ++ tail).head? ≠ some '`' := by
  cases s with
  | nil => exact h rfl
  | cons c s =>
    rw [verbatimChars_cons, verbatimChar]
    by_cases hc : c = '`'
    · simp [hc]
    · simp [hc]

/-- Escaped code reads as the code, unless a backslash at its end meets a backtick behind it. -/
theorem readCode?_append (h : s.getLast? = some '\\' → tail.head? ≠ some '`') :
    readCode? (verbatimChars s ++ tail) = (readCode? tail).map fun p => (s ++ p.1, p.2) := by
  induction s with
  | nil => simp [verbatimChars]
  | cons c s ih =>
    have hlast : s.getLast? = some '\\' → tail.head? ≠ some '`' := by
      intro hs
      cases s with
      | nil => cases hs
      | cons d s => exact h (by rwa [List.getLast?_cons_cons])
    rw [verbatimChars_cons, verbatimChar]
    by_cases hc : c = '`'
    · rw [if_pos (by simpa using hc), List.append_assoc, List.cons_append, List.singleton_append,
        readCode?_escaped, ih hlast, Option.map_map, hc]
      rfl
    · rw [if_neg (by simpa using hc), List.append_assoc, List.singleton_append,
        readCode?_cons hc, ih hlast, Option.map_map]
      · rfl
      · intro hbackslash
        refine head?_verbatimChars_append ?_
        rintro rfl
        exact h (by rw [hbackslash]; rfl)

theorem readCode?_verbatimChars_iff :
    readCode? (verbatimChars s ++ '`' :: rest) = some (s, rest) ↔ s.getLast? ≠ some '\\' := by
  constructor
  · intro hread hlast
    obtain ⟨front, rfl⟩ := List.getLast?_eq_some_iff.mp hlast
    -- The delimiter is read as a part of the code, in the place of the backslash.
    have hfront : readCode? (verbatimChars (front ++ ['\\']) ++ '`' :: rest) =
        (readCode? rest).map fun p => (front ++ '`' :: p.1, p.2) := by
      rw [verbatimChars_append, List.append_assoc]
      refine (readCode?_append (by simp [verbatimChars, verbatimChar])).trans ?_
      rw [show verbatimChars ['\\'] ++ '`' :: rest = '\\' :: '`' :: rest from rfl,
        readCode?_escaped, Option.map_map]
      rfl
    obtain ⟨p, -, hp⟩ := Option.map_eq_some_iff.mp (hfront.symm.trans hread)
    have hcode : front ++ '`' :: p.1 = front ++ ['\\'] := congrArg Prod.fst hp
    simp at hcode
  · intro hlast
    rw [readCode?_append (fun h => absurd h hlast)]
    simp [readCode?]

theorem textBefore?_eq_none (h : textBefore? mark s = none) (hmark : mark ≠ []) :
    ¬ mark <:+: s := by
  induction s with
  | nil => rwa [List.infix_nil]
  | cons c s ih =>
    rw [textBefore?] at h
    by_cases hhere : mark.isPrefixOf (c :: s)
    · rw [if_pos hhere] at h
      cases h
    · rw [if_neg hhere, Option.map_eq_none_iff] at h
      rw [List.infix_cons_iff]
      rintro (hstart | hlater)
      · exact hhere (List.isPrefixOf_iff_prefix.mpr hstart)
      · exact ih h hlater

/-- The text is followed by the mark, and no occurrence of the mark starts further to the front. -/
theorem textBefore?_eq_some (h : textBefore? mark s = some before) :
    (∃ tail, s = before ++ (mark ++ tail)) ∧
      ∀ front tail, s = front ++ (mark ++ tail) → before.length ≤ front.length := by
  induction s generalizing before with
  | nil => cases h
  | cons c s ih =>
    rw [textBefore?] at h
    by_cases hhere : mark.isPrefixOf (c :: s)
    · rw [if_pos hhere] at h
      cases h
      obtain ⟨tail, htail⟩ := List.isPrefixOf_iff_prefix.mp hhere
      exact ⟨⟨tail, htail.symm⟩, fun _ _ _ => Nat.zero_le _⟩
    · rw [if_neg hhere, Option.map_eq_some_iff] at h
      obtain ⟨later, hlater, rfl⟩ := h
      obtain ⟨⟨tail, htail⟩, hfirst⟩ := ih hlater
      refine ⟨⟨tail, by rw [htail, List.cons_append]⟩, fun front tail' hsplit => ?_⟩
      cases front with
      | nil => exact absurd (List.isPrefixOf_iff_prefix.mpr ⟨tail', hsplit.symm⟩) hhere
      | cons d front =>
        rw [List.cons_append, List.cons.injEq] at hsplit
        exact Nat.succ_le_succ (hfirst front tail' hsplit.2)

theorem textBefore?_eq_some_iff (hmark : mark ≠ []) :
    textBefore? mark s = some before ↔ (∃ tail, s = before ++ (mark ++ tail)) ∧
      ∀ front tail, s = front ++ (mark ++ tail) → before.length ≤ front.length := by
  refine ⟨textBefore?_eq_some, ?_⟩
  rintro ⟨⟨tail, hs⟩, hfirst⟩
  cases hread : textBefore? mark s with
  | none =>
    exact absurd ⟨before, tail, by rw [hs, List.append_assoc]⟩ (textBefore?_eq_none hread hmark)
  | some other =>
    obtain ⟨⟨tail', hs'⟩, hfirst'⟩ := textBefore?_eq_some hread
    have hlength : other.length = before.length :=
      Nat.le_antisymm (hfirst' before tail hs) (hfirst other tail' hs')
    exact congrArg some (List.append_inj_left (hs'.symm.trans hs) hlength)

theorem length_withoutFinalBreak_le (s : List Char) : (withoutFinalBreak s).length ≤ s.length := by
  unfold withoutFinalBreak
  split
  · simp
  · exact Nat.le_refl _

theorem withoutFinalBreak_append_break (s : List Char) : withoutFinalBreak (s ++ ['\n']) = s := by
  simp [withoutFinalBreak]

/-- No end mark starts in front of the line break, if none lies there. -/
theorem length_lt_of_endMark (hkept : ¬ endMark <:+: kept) {front : List Char}
    (h : kept ++ '\n' :: rest = front ++ (endMark ++ tail)) : kept.length < front.length := by
  have hbreak : '\n' ∉ endMark := by decide
  refine Nat.lt_of_not_le fun hle => ?_
  obtain ⟨u, rfl⟩ : front <+: kept :=
    List.prefix_of_prefix_length_le (h ▸ List.prefix_append front _) (List.prefix_append kept _) hle
  rw [List.append_assoc, List.append_cancel_left_eq] at h
  -- The mark ends in front of the line break or contains it.
  rcases List.append_eq_append_iff.mp h with ⟨v, hmark, hv⟩ | ⟨v, rfl, -⟩
  · cases v with
    | nil => exact hkept ⟨front, [], by simp [hmark]⟩
    | cons c v =>
      obtain ⟨rfl, -⟩ := List.cons.inj hv
      exact hbreak (by simp [hmark])
  · exact hkept ⟨front, v, by simp⟩

theorem readListing?_iff :
    readListing? (kept ++ '\n' :: (endMark ++ rest)) = some kept ↔ ¬ endMark <:+: kept := by
  constructor
  · rintro hread ⟨u, v, rfl⟩
    obtain ⟨before, hbefore, hkept⟩ := Option.map_eq_some_iff.mp hread
    have hfirst := (textBefore?_eq_some hbefore).2 u (v ++ '\n' :: (endMark ++ rest)) (by simp)
    have hshort := length_withoutFinalBreak_le before
    have hmark : 0 < endMark.length := by decide
    rw [hkept, List.length_append, List.length_append] at hshort
    omega
  · intro hkept
    have hbefore :
        textBefore? endMark (kept ++ '\n' :: (endMark ++ rest)) = some (kept ++ ['\n']) :=
      (textBefore?_eq_some_iff (by decide)).mpr
        ⟨⟨rest, by simp⟩, fun front tail h => by
          rw [List.length_append]
          exact length_lt_of_endMark hkept h⟩
    rw [readListing?, hbefore, Option.map_some, withoutFinalBreak_append_break]

end Latex

namespace Renderer

/-- Inline code can be read back from what its rule prints if and only if it does not end in a
backslash, which would hide the delimiter. A listing, which is printed without the blanks at its
end, can be read back if and only if it does not contain the end mark. What follows in the output
has no influence. -/
theorem verbatim_code_reads_back (r : Renderer) (t : Token) (next : Option Token) (c : Context)
    {code : String} (hcode : t.content.text? = some code) :
    (t.kind = .codeInline → ∃ body : String,
      r.rule t next c = .ok (.text ("\\lstinline`" ++ body), c) ∧
        ∀ rest, Latex.readCode? (body.toList ++ rest) = some (code.toList, rest) ↔
          code.toList.getLast? ≠ some '\\') ∧
      (t.kind = .fence → ∀ info, t.info.text? = some info → isHidden info = false →
        ∃ (kept : List Char) (body : String), Text.IsTrimmed code.toList kept ∧
          r.rule t next c =
            .ok (.text ("\n\n" ++ r.label t ++ "\\begin\x7blstlisting\x7d\n" ++ body), c) ∧
          ∀ rest, Latex.readListing? (body.toList ++ rest) = some kept ↔
            ¬ Latex.endMark <:+: kept) := by
  refine ⟨fun hk => ?_, fun hk info hinfo hshown => ?_⟩
  · refine ⟨Latex.escapeVerbatim code ++ "`", ?_, fun rest => ?_⟩
    · have hprinted : codeInline t c = .ok (_, c) :=
        codeInline_eq_ok_iff.mpr ⟨rfl, code, hcode, rfl⟩
      rw [rule, hk]
      simpa only [String.append_assoc] using hprinted
    · have hbody : (Latex.escapeVerbatim code ++ "`").toList ++ rest =
          Latex.verbatimChars code.toList ++ '`' :: rest := by
        simp [Latex.escapeVerbatim]
      rw [hbody, Latex.readCode?_verbatimChars_iff]
  · refine ⟨Text.trimEnd code.toList,
      Text.trimEndText code ++ "\n\\end\x7blstlisting\x7d\n\\noindent",
      Text.isTrimmed_trimEnd _, ?_, fun rest => ?_⟩
    · have hprinted : r.fence t c = .ok (_, c) :=
        fence_eq_ok_iff.mpr ⟨rfl, info, hinfo, .inr ⟨hshown, code, hcode, rfl⟩⟩
      rw [rule, hk]
      simpa only [String.append_assoc] using hprinted
    · have hend : "\n\\end\x7blstlisting\x7d\n\\noindent".toList =
          '\n' :: (Latex.endMark ++ "\n\\noindent".toList) := by decide
      have hbody : (Text.trimEndText code ++ "\n\\end\x7blstlisting\x7d\n\\noindent").toList ++
          rest = Text.trimEnd code.toList ++
            '\n' :: (Latex.endMark ++ ("\n\\noindent".toList ++ rest)) := by
        rw [String.toList_append, hend, Text.trimEndText, String.toList_ofList, List.append_assoc,
          List.cons_append, List.append_assoc]
      rw [hbody, Latex.readListing?_iff]

/-- Code that ends in a backtick behind a backslash. -/
def disguisedCode : Token := { kind := .codeInline, content := .text "a\\`" }

/-- A listing with the end mark in a comment. -/
def interruptedListing : Token :=
  { kind := .fence, content := .text "% \\end\x7blstlisting\x7d\n \n" }

theorem verbatim_code_reads_back_comment :
    (∀ (r : Renderer) (c : Context), ∃ body : String,
      r.rule disguisedCode none c = .ok (.text ("\\lstinline`" ++ body), c) ∧
        Latex.readCode? (body.toList ++ "b`".toList) = some ("a\\`".toList, "b`".toList)) ∧
      ∀ (r : Renderer) (c : Context), ∃ (kept : List Char) (body : String),
        Text.IsTrimmed "% \\end\x7blstlisting\x7d\n \n".toList kept ∧
          r.rule interruptedListing none c = .ok (.text ("\n\n" ++ r.label interruptedListing ++
            "\\begin\x7blstlisting\x7d\n" ++ body), c) ∧
          Latex.readListing? body.toList ≠ some kept := by
  constructor
  · intro r c
    obtain ⟨hcode, -⟩ := verbatim_code_reads_back r disguisedCode none c rfl
    obtain ⟨body, hrule, hread⟩ := hcode rfl
    exact ⟨body, hrule, (hread _).mpr (by decide)⟩
  · intro r c
    obtain ⟨-, hlisting⟩ := verbatim_code_reads_back r interruptedListing none c rfl
    obtain ⟨kept, body, hkept, hrule, hread⟩ := hlisting rfl "" rfl (by decide)
    obtain rfl := Text.isTrimmed_iff.mp hkept
    refine ⟨_, body, hkept, hrule, fun h => ?_⟩
    exact (hread []).mp (by rwa [List.append_nil]) ⟨"% ".toList, [], by decide⟩

end Renderer
end ChapterTex
