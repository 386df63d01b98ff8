import ChapterTex.Proofs.Text.Case
import ChapterTex.Proofs.Text.Pieces
import ChapterTex.Title

/-!
Capitals word by word. Each word of a title is treated on its own, and only the place of the first
one matters; a word stays as it is or gets a new first character, and gets the same one again the
next time.
-/
namespace ChapterTex.Title
variable {word form s t : List Char} {ws vs : List (List Char)} {opening first : Bool}

/-! Small words by their lower case in any script. -/

theorem mem_smallWords_letters :
    ∀ small ∈ smallWords, ∀ c ∈ small.toList, c.isLower = true ∧ c ≠ 'k' := by
  simp [smallWords]

theorem toNat_lt_of_isLower_toLower {c : Char} (h : c.toLower.isLower = true) : c.toNat < 128 := by
  by_contra hge
  have hsame : c.toLower = c := by
    unfold Char.toLower
    split
    · next hupper =>
      have hle : c.toNat ≤ 90 := hupper.2
      omega
    · rfl
  rw [hsame, ← Char.ofNat_toNat c, Text.isLower_ofNat (Nat.not_lt.mp hge)] at h
  cases h

theorem isSmall_iff_of_lowerCase (h : Text.LowerCase word form) :
    isSmall word = true ↔ String.ofList form ∈ smallWords := by
  rw [isSmall, List.contains_iff_mem]
  constructor
  · intro hsmall
    have hletters := mem_smallWords_letters _ hsmall
    rw [String.toList_ofList] at hletters
    have hascii : ∀ c ∈ word, c.toNat < 128 := fun c hc =>
      toNat_lt_of_isLower_toLower (hletters _ (List.mem_map_of_mem hc)).1
    rwa [h.eq_map_toLower hascii]
  · -- The Kelvin sign alone has a small letter of ASCII as its lower case, and no small word has
    -- a `k`.
    intro hsmall
    have hletters := mem_smallWords_letters _ hsmall
    rw [String.toList_ofList] at hletters
    have hascii : ∀ c ∈ word, c.toNat < 128 := by
      by_contra hbeyond
      simp only [not_forall, Nat.not_lt, exists_prop] at hbeyond
      obtain ⟨d, hd, hforeign⟩ := h.exists_foreign hbeyond
      exact (hletters d hd).2 (hforeign (hletters d hd).1)
    rwa [← h.eq_map_toLower hascii]

/-! The words of a title one by one. -/

/-- The words of a title, of which the first one opens it or not. -/
def titled (first : Bool) : List (List Char) → List (List Char)
  | [] => []
  | w :: ws => titleWord first w :: ws.map (titleWord false)

theorem capitalizeChars_eq (s : List Char) (first : Bool) :
    capitalizeChars s first = unwords (titled first (words s)) := by
  unfold capitalizeChars
  cases words s <;> rfl

theorem titled_false (ws : List (List Char)) : titled false ws = ws.map (titleWord false) := by
  cases ws <;> rfl

theorem titled_append (hws : ws ≠ []) (vs : List (List Char)) :
    titled first (ws ++ vs) = titled first ws ++ titled false vs := by
  cases ws with
  | nil => exact absurd rfl hws
  | cons w ws =>
    rw [List.cons_append, titled, titled, titled_false, List.map_append, List.cons_append]

theorem length_titled (first : Bool) (ws : List (List Char)) :
    (titled first ws).length = ws.length := by
  cases ws <;> simp [titled]

theorem getElem?_titled (first : Bool) (ws : List (List Char)) (i : Nat) :
    (titled first ws)[i]? = ws[i]?.map (titleWord (decide (i = 0) && first)) := by
  cases ws with
  | nil => rfl
  | cons w ws => cases i <;> simp [titled]

theorem titled_ne_nil (hws : ws ≠ []) : titled first ws ≠ [] := by
  rw [← List.length_pos_iff] at hws ⊢
  rwa [length_titled]

/-! A capital is final, and it is no space. -/

theorem capital_capital (word : List Char) : capital (capital word) = capital word := by
  cases word with
  | nil => rfl
  | cons c rest =>
    obtain ⟨d, more, hupper⟩ := List.exists_cons_of_ne_nil (Text.upper_ne_nil c)
    have hmem : d ∈ Text.upper c := hupper ▸ List.mem_cons_self
    have hd : Text.upper d = [d] := Text.upper_of_mem_upper hmem
    rw [capital, hupper, List.cons_append, capital, hd]
    rfl

theorem titleWord_titleWord (opening : Bool) (word : List Char) :
    titleWord opening (titleWord opening word) = titleWord opening word := by
  unfold titleWord
  by_cases hcapital : (opening || !isSmall word) = true
  · rw [if_pos hcapital, capital_capital, ite_self]
  · rw [if_neg hcapital, if_neg hcapital]

theorem space_not_mem_capital (h : ' ' ∉ word) : ' ' ∉ capital word := by
  cases word with
  | nil => exact h
  | cons c rest =>
    rw [List.mem_cons, not_or] at h
    obtain ⟨hc, hrest⟩ := h
    rw [capital, List.mem_append, not_or]
    exact ⟨fun hupper => hc (Text.eq_space_of_mem_upper hupper).symm, hrest⟩

theorem space_not_mem_titleWord (h : ' ' ∉ word) : ' ' ∉ titleWord opening word := by
  unfold titleWord
  split
  · exact space_not_mem_capital h
  · exact h

theorem words_capitalizeChars (s : List Char) (first : Bool) :
    words (capitalizeChars s first) = titled first (words s) := by
  have hne : titled first (words s) ≠ [] := titled_ne_nil (Text.pieces_ne_nil ' ' s)
  rw [capitalizeChars_eq, words, unwords, Text.pieces_unite hne]
  intro w hw
  obtain ⟨i, hi⟩ := List.mem_iff_getElem?.mp hw
  rw [getElem?_titled, Option.map_eq_some_iff] at hi
  obtain ⟨word, hword, rfl⟩ := hi
  exact space_not_mem_titleWord (Text.not_mem_of_mem_pieces (List.mem_of_getElem? hword))

theorem capitalizeChars_append (s t : List Char) (first : Bool) :
    capitalizeChars (s ++ ' ' :: t) first =
      capitalizeChars s first ++ ' ' :: capitalizeChars t false := by
  simp only [capitalizeChars_eq, words, Text.pieces_append_cons]
  rw [titled_append (Text.pieces_ne_nil ' ' s)]
  exact Text.unite_append (titled_ne_nil (Text.pieces_ne_nil ' ' s))
    (titled_ne_nil (Text.pieces_ne_nil ' ' t))

theorem titled_titled (first : Bool) (ws : List (List Char)) :
    titled first (titled first ws) = titled first ws := by
  refine List.ext_getElem? fun i => ?_
  rw [getElem?_titled, getElem?_titled, Option.map_map]
  refine congrArg (Option.map · ws[i]?) (funext fun word => ?_)
  exact titleWord_titleWord _ word

theorem capitalizeChars_capitalizeChars (s : List Char) (first : Bool) :
    capitalizeChars (capitalizeChars s first) first = capitalizeChars s first := by
  rw [capitalizeChars_eq (capitalizeChars s first), words_capitalizeChars, titled_titled,
    ← capitalizeChars_eq]

theorem count_space_capitalizeChars (s : List Char) (first : Bool) :
    (capitalizeChars s first).count ' ' = s.count ' ' := by
  have hlength := congrArg List.length (words_capitalizeChars s first)
  rw [length_titled, words, words, Text.length_pieces, Text.length_pieces] at hlength
  exact Nat.succ.inj hlength

/-- Which words keep their spelling: those without a first character, and small words, told by any
of their lower-case forms, which do not open the title. -/
theorem titleWord_eq (h : Text.LowerCase word form) :
    titleWord opening word =
      if word = [] ∨ String.ofList form ∈ smallWords ∧ opening = false then word
      else capital word := by
  have hsmall := isSmall_iff_of_lowerCase h
  unfold titleWord
  by_cases hnil : word = []
  · subst hnil
    simp [capital]
  · cases opening with
    | true => simp [hnil]
    | false =>
      by_cases hform : String.ofList form ∈ smallWords
      · simp [hform, hsmall.mpr hform]
      · have hlarge : isSmall word = false := Bool.eq_false_iff.mpr fun h => hform (hsmall.mp h)
        simp [hnil, hform, hlarge]

/-- Capitals are set word by word and once for all. A title cut at a space is treated part by part,
of which only the first can open it; capitals of capitals are the same; and the spaces stay. Of the
words between them those keep their spelling that are empty or, in lower case, small words that do
not open the title. Every other word has its first character in upper case and is the same from the
second on. -/
theorem capitals_are_set_word_by_word (a b : String) (first : Bool) :
    capitalize (a ++ " " ++ b) first = capitalize a first ++ " " ++ capitalize b false ∧
      capitalize (capitalize a first) first = capitalize a first ∧
      (capitalize a first).toList.count ' ' = a.toList.count ' ' ∧
      ∀ (i : Nat) (word : List Char), (a.toList.splitOn ' ')[i]? = some word →
        (∃ form, Text.LowerCase word form) ∧ ∀ form, Text.LowerCase word form →
          ((capitalize a first).toList.splitOn ' ')[i]? = some
            (if word = [] ∨ String.ofList form ∈ smallWords ∧ ¬ (i = 0 ∧ first = true) then word
              else capital word) := by
  have hchars (s : String) : (capitalize s first).toList = capitalizeChars s.toList first :=
    String.toList_ofList
  refine ⟨?_, ?_, ?_, fun i word hword => ⟨Text.exists_lowerCase word, fun form hform => ?_⟩⟩
  · rw [← String.toList_inj]
    simp only [capitalize, String.toList_append, String.toList_ofList]
    have hspace : " ".toList = [' '] := rfl
    simp only [hspace, List.append_assoc, List.singleton_append, capitalizeChars_append]
  · rw [← String.toList_inj, hchars, hchars, capitalizeChars_capitalizeChars]
  · rw [hchars, count_space_capitalizeChars]
  · rw [← Text.pieces_eq_splitOn] at hword ⊢
    rw [hchars]
    have hplace := congrArg (fun ws => ws[i]?) (words_capitalizeChars a.toList first)
    simp only [words, getElem?_titled, hword, Option.map_some] at hplace
    have hopening : (decide (i = 0) && first) = false ↔ ¬ (i = 0 ∧ first = true) := by
      rw [← Bool.not_eq_true, Bool.and_eq_true, decide_eq_true_eq]
    simp only [hplace, titleWord_eq hform, hopening]

/-- A title with two ligatures and with a dotless letter, whose capital makes its word a small
one. -/
def ligatures : String := "of  \ufb01ne \u0131n OF \u0149"

theorem capitals_are_set_word_by_word_ligatures :
    (ligatures.toList.splitOn ' ')[3]? = some ['\u0131', 'n'] ∧
      Text.LowerCase ['\u0131', 'n'] ['\u0131', 'n'] ∧
      ((capitalize ligatures false).toList.splitOn ' ')[3]? = some ['I', 'n'] ∧
      (ligatures.toList.splitOn ' ')[4]? = some ['O', 'F'] ∧ Text.LowerCase ['O', 'F'] ['o', 'f'] ∧
      ((capitalize ligatures false).toList.splitOn ' ')[4]? = some ['O', 'F'] ∧
      capitalize ligatures false = "of  FIne In OF \u02bcN" ∧
      capitalize "of  FIne In OF \u02bcN" false = "of  FIne In OF \u02bcN" := by
  obtain ⟨-, hagain, -, hwords⟩ := capitals_are_set_word_by_word ligatures "" false
  have hdotless : Text.LowerCase ['\u0131', 'n'] ['\u0131', 'n'] :=
    @Text.LowerCase.cons _ ['\u0131'] _ _ (by decide)
      (@Text.LowerCase.cons _ ['n'] _ _ (by decide) .nil)
  have hof : Text.LowerCase ['O', 'F'] ['o', 'f'] :=
    @Text.LowerCase.cons _ ['o'] _ _ (by decide) (@Text.LowerCase.cons _ ['f'] _ _ (by decide) .nil)
  have hligatures : capitalize ligatures false = "of  FIne In OF \u02bcN" := by decide
  refine ⟨by decide, hdotless, ?_, by decide, hof, ?_, hligatures, ?_⟩
  · rw [(hwords 3 _ (by decide)).2 _ hdotless, if_neg (by decide)]
    decide
  · rw [(hwords 4 _ (by decide)).2 _ hof, if_pos (by decide)]
  · rw [hligatures] at hagain
    exact hagain

end ChapterTex.Title
