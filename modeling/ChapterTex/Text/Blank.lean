import ChapterTex.Text.Ranges

/-!
White space: the characters with the Unicode property, and the four information separators.
Trimming removes them from one end of a text or from both.
-/
namespace ChapterTex.Text

/-- White space of any script. The zero width space and the byte order mark are not blank. -/
def blanks : Ranges :=
  [(0x9, 0xD), (0x1C, 0x20), (0x85, 0x85), (0xA0, 0xA0), (0x1680, 0x1680), (0x2000, 0x200A),
    (0x2028, 0x2029), (0x202F, 0x202F), (0x205F, 0x205F), (0x3000, 0x3000)]

def isBlank (c : Char) : Bool := blanks.contains c

def trimStart (s : List Char) : List Char := s.dropWhile isBlank

def trimEnd : List Char → List Char
  | [] => []
  | c :: rest =>
    match trimEnd rest with
    | [] => if isBlank c then [] else [c]
    | kept => c :: kept

def trim (s : List Char) : List Char := trimEnd (trimStart s)

theorem trimStart_cons_of_not_blank {c : Char} (h : isBlank c = false) (s : List Char) :
    trimStart (c :: s) = c :: s := by
  simp [trimStart, h]

/-- What is trimmed from the end is blank. -/
theorem trimEnd_append_blanks (s : List Char) :
    ∃ t : List Char, s = trimEnd s ++ t ∧ ∀ c ∈ t, isBlank c = true := by
  induction s with
  | nil => exact ⟨[], rfl, by simp⟩
  | cons c s ih =>
    obtain ⟨t, hs, ht⟩ := ih
    cases hk : trimEnd s with
    | nil =>
      rw [hk, List.nil_append] at hs
      subst hs
      by_cases hc : isBlank c = true
      · refine ⟨c :: s, by simp [trimEnd, hk, hc], ?_⟩
        intro d hd
        rcases List.mem_cons.mp hd with rfl | hd
        · exact hc
        · exact ht d hd
      · exact ⟨s, by simp [trimEnd, hk, hc], ht⟩
    | cons d kept =>
      refine ⟨t, ?_, ht⟩
      rw [hk] at hs
      rw [hs]
      simp only [trimEnd, ← hs, hk, List.cons_append]

/-- What is left does not end in a blank. -/
theorem isBlank_of_getLast?_trimEnd {s : List Char} {c : Char} (h : c ∈ (trimEnd s).getLast?) :
    isBlank c = false := by
  induction s with
  | nil => cases h
  | cons d s ih =>
    cases hk : trimEnd s with
    | nil =>
      cases hd : isBlank d with
      | true => simp [trimEnd, hk, hd] at h
      | false =>
        obtain rfl : d = c := by simpa [trimEnd, hk, hd] using h
        exact hd
    | cons e kept =>
      rw [hk] at ih
      simp only [trimEnd, hk, List.getLast?_cons_cons] at h
      exact ih h

/-- The text without its trailing blanks. -/
def trimEndText (s : String) : String := String.ofList (trimEnd s.toList)

end ChapterTex.Text
