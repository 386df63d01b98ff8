import Mathlib.Data.List.TakeWhile
import Mathlib.Order.Bounds.Basic
import ChapterTex.FrontMatter

/-!
Where front matter ends. It closes at the first line of three hyphens behind the opening ones, and
the document without it starts at the next character that is not blank. A search for the closing
pattern that trims what follows its match gives the same document, whichever match it takes at that
place.
-/
namespace ChapterTex.FrontMatter

/-- Whether a text starts with a line end and a closing line, and `rest` is what follows this line
and all the blanks after it. -/
def Closes (s rest : List Char) : Prop :=
  ∃ blanks, s = "\n---".toList ++ (blanks ++ rest) ∧ (∀ c ∈ blanks, Text.isBlank c = true) ∧
    '\n' ∈ blanks ∧ ∀ c ∈ rest.head?, Text.isBlank c = false

/-- A match of the closing pattern: a line end, three hyphens, blanks and a line end. -/
def IsClosingMatch (mark : List Char) : Prop :=
  ∃ blanks, mark = "\n---".toList ++ (blanks ++ ['\n']) ∧ ∀ c ∈ blanks, Text.isBlank c = true

/-- The places behind the three opening characters of a document at which front matter can close. -/
def closings (document : List Char) : Set Nat :=
  {i | 3 ≤ i ∧ ∃ rest, Closes (document.drop i) rest}

variable {s rest blanks mark tail document : List Char} {i : Nat}

/-! A maximal run of blanks is what the blanks of a text are taken and dropped to. -/

theorem takeWhile_blanks (hblanks : ∀ c ∈ blanks, Text.isBlank c = true)
    (hrest : ∀ c ∈ rest.head?, Text.isBlank c = false) :
    (blanks ++ rest).takeWhile Text.isBlank = blanks := by
  rw [List.takeWhile_append_of_pos hblanks]
  cases rest with
  | nil => simp
  | cons c rest => simp [hrest c rfl]

theorem trimStart_blanks_append (hblanks : ∀ c ∈ blanks, Text.isBlank c = true) (rest : List Char) :
    Text.trimStart (blanks ++ rest) = Text.trimStart rest :=
  List.dropWhile_append_of_pos hblanks

theorem trimStart_eq_self (hrest : ∀ c ∈ rest.head?, Text.isBlank c = false) :
    Text.trimStart rest = rest := by
  cases rest with
  | nil => rfl
  | cons c rest => exact Text.trimStart_cons_of_not_blank (hrest c rfl) rest

theorem isBlank_of_head?_trimStart {c : Char} (h : c ∈ (Text.trimStart s).head?) :
    Text.isBlank c = false := by
  have hhead := List.head?_dropWhile_not Text.isBlank s
  rw [Text.trimStart, Option.mem_def] at h
  rwa [h] at hhead

theorem afterClosing?_eq_some_iff : afterClosing? s = some rest ↔ Closes s rest := by
  unfold afterClosing?
  split
  · next body =>
    constructor
    · intro h
      obtain ⟨hline, htail⟩ := Option.ite_none_right_eq_some.mp h
      obtain rfl := Option.some.inj htail
      refine ⟨body.takeWhile Text.isBlank, ?_, fun c hc => List.mem_takeWhile_imp hc,
        List.contains_iff_mem.mp hline, fun c hc => isBlank_of_head?_trimStart hc⟩
      rw [List.takeWhile_append_dropWhile]
      rfl
    · rintro ⟨blanks, hs, hblanks, hline, hrest⟩
      obtain rfl : body = blanks ++ rest := (List.append_right_inj "\n---".toList).mp hs
      rw [takeWhile_blanks hblanks hrest, if_pos (List.contains_iff_mem.mpr hline)]
      exact congrArg some ((trimStart_blanks_append hblanks rest).trans (trimStart_eq_self hrest))
  · next hno =>
    refine iff_of_false nofun ?_
    rintro ⟨blanks, hs, -⟩
    exact hno (blanks ++ rest) hs

theorem mem_closings_iff_isSome :
    i ∈ closings document ↔ 3 ≤ i ∧ (afterClosing? (document.drop i)).isSome = true := by
  simp only [closings, Set.mem_ofPred_eq, Option.isSome_iff_exists, afterClosing?_eq_some_iff]

theorem closes_unique {rest' : List Char} (h : Closes s rest) (h' : Closes s rest') :
    rest = rest' := by
  rw [← afterClosing?_eq_some_iff] at h h'
  exact Option.some.inj (h.symm.trans h')

/-- The search stops at the first place where front matter closes. -/
theorem afterBlock?_eq_some_iff : afterBlock? s = some rest ↔
    ∃ n, Closes (s.drop n) rest ∧ ∀ m < n, ¬ ∃ other, Closes (s.drop m) other := by
  induction s with
  | nil =>
    refine iff_of_false nofun ?_
    rintro ⟨n, ⟨blanks, hs, -⟩, -⟩
    rw [List.drop_nil] at hs
    cases hs
  | cons c s ih =>
    rw [afterBlock?]
    cases hhere : afterClosing? (c :: s) with
    | some tail =>
      have hcloses := afterClosing?_eq_some_iff.mp hhere
      constructor
      · rintro ⟨rfl⟩
        exact ⟨0, hcloses, nofun⟩
      · rintro ⟨n, hn, hfirst⟩
        cases n with
        | zero => exact congrArg some (closes_unique hcloses hn)
        | succ n => exact absurd ⟨tail, hcloses⟩ (hfirst 0 n.succ_pos)
    | none =>
      have hnot : ¬ ∃ other, Closes (c :: s) other := by
        rintro ⟨other, hother⟩
        rw [← afterClosing?_eq_some_iff, hhere] at hother
        cases hother
      rw [ih]
      constructor
      · rintro ⟨n, hn, hfirst⟩
        refine ⟨n + 1, hn, fun m hm => ?_⟩
        cases m with
        | zero => exact hnot
        | succ m => exact hfirst m (Nat.lt_of_succ_lt_succ hm)
      · rintro ⟨n, hn, hfirst⟩
        cases n with
        | zero => exact absurd ⟨rest, hn⟩ hnot
        | succ n => exact ⟨n, hn, fun m hm => hfirst (m + 1) (Nat.succ_lt_succ hm)⟩

theorem Closes.suffix (h : Closes s rest) : rest <:+ s := by
  obtain ⟨blanks, rfl, -⟩ := h
  exact ⟨"\n---".toList ++ blanks, List.append_assoc ..⟩

theorem Closes.length_lt (h : Closes s rest) : rest.length < s.length := by
  obtain ⟨blanks, rfl, -⟩ := h
  simp
  omega

/-! Closing lines by the matches of the pattern. -/

theorem closes_of_match (hmark : IsClosingMatch mark) (tail : List Char) :
    Closes (mark ++ tail) (Text.trimStart tail) := by
  obtain ⟨blanks, rfl, hblanks⟩ := hmark
  -- The blanks of the match need not be all: those behind its line end belong to the run as well.
  refine ⟨blanks ++ '\n' :: tail.takeWhile Text.isBlank, ?_, ?_, by simp,
    fun c hc => isBlank_of_head?_trimStart hc⟩
  · have htail : tail.takeWhile Text.isBlank ++ Text.trimStart tail = tail :=
      List.takeWhile_append_dropWhile
    simp only [List.append_assoc, List.cons_append, List.nil_append, htail]
  · intro c hc
    rcases List.mem_append.mp hc with hc | hc
    · exact hblanks c hc
    · rcases List.mem_cons.mp hc with rfl | hc
      · decide
      · exact List.mem_takeWhile_imp hc

theorem exists_match_of_closes (h : Closes s rest) : ∃ mark, IsClosingMatch mark ∧ mark <+: s := by
  obtain ⟨blanks, rfl, hblanks, hline, -⟩ := h
  obtain ⟨before, after, rfl⟩ := List.mem_iff_append.mp hline
  refine ⟨"\n---".toList ++ (before ++ ['\n']), ⟨before, rfl, fun c hc => hblanks c ?_⟩, ?_⟩
  · exact List.mem_append_left _ hc
  · exact ⟨after ++ rest, by simp⟩

theorem mem_closings_iff_match : i ∈ closings document ↔
    3 ≤ i ∧ ∃ mark, IsClosingMatch mark ∧ mark <+: document.drop i := by
  refine and_congr_right fun _ => ⟨fun ⟨_, hcloses⟩ => exists_match_of_closes hcloses, ?_⟩
  rintro ⟨mark, hmark, tail, htail⟩
  exact ⟨Text.trimStart tail, htail ▸ closes_of_match hmark tail⟩

/-- Hyphens at the end of a document close nothing. -/
theorem length_not_mem_closings (front : List Char) :
    front.length ∉ closings (front ++ "\n---".toList) := by
  rintro ⟨-, rest, blanks, hs, -, hline, -⟩
  rw [List.drop_left] at hs
  obtain ⟨rfl, -⟩ := List.append_eq_nil_iff.mp (List.append_right_eq_self.mp hs.symm)
  cases hline

theorem stripChars_opening (body : List Char) :
    stripChars ("---".toList ++ body) = (afterBlock? body).getD ("---".toList ++ body) := rfl

theorem stripChars_of_not_opening (h : ¬ "---".toList <+: document) :
    stripChars document = document := by
  unfold stripChars
  split
  · next body => exact absurd ⟨body, rfl⟩ h
  · rfl

theorem mem_closings_opening {body : List Char} {n : Nat} :
    n + 3 ∈ closings ("---".toList ++ body) ↔ ∃ rest, Closes (body.drop n) rest :=
  and_iff_right (Nat.le_add_left 3 n)

theorem closes_stripChars (hopening : "---".toList <+: document)
    (hi : IsLeast (closings document) i) :
    Closes (document.drop i) (stripChars document) := by
  obtain ⟨body, rfl⟩ := hopening
  obtain ⟨⟨hle, rest, hrest⟩, hfirst⟩ := hi
  obtain ⟨n, rfl⟩ := Nat.exists_eq_add_of_le' hle
  have hblock : afterBlock? body = some rest := by
    refine afterBlock?_eq_some_iff.mpr ⟨n, hrest, fun m hm hother => ?_⟩
    have hge := hfirst (mem_closings_opening.mpr hother)
    omega
  rwa [stripChars_opening, hblock]

theorem stripChars_of_no_closing
    (h : ¬ ("---".toList <+: document ∧ (closings document).Nonempty)) :
    stripChars document = document := by
  by_cases hopening : "---".toList <+: document
  · obtain ⟨body, rfl⟩ := hopening
    have hnone : afterBlock? body = none := by
      rw [Option.eq_none_iff_forall_not_mem]
      intro rest hrest
      obtain ⟨n, hn, -⟩ := afterBlock?_eq_some_iff.mp hrest
      exact h ⟨List.prefix_append _ _, n + 3, mem_closings_opening.mpr ⟨rest, hn⟩⟩
    rw [stripChars_opening, hnone]
    rfl
  · exact stripChars_of_not_opening hopening

/-- Front matter is one block. A document that starts with three hyphens loses what stands up to the
first closing line and the blanks after it, which is a part of it, and nothing else; trimming the
text behind any match of the closing pattern at that place gives the same. Every other document
stays as it is, also one that ends in three hyphens without a line end. -/
theorem front_matter_is_one_block (document : String) :
    (∀ i, "---".toList <+: document.toList → IsLeast (closings document.toList) i →
      Closes (document.toList.drop i) (strip document).toList ∧
        (strip document).toList <:+ document.toList ∧ strip document ≠ document ∧
        ∀ mark, IsClosingMatch mark → mark <+: document.toList.drop i →
          (strip document).toList = Text.trimStart (document.toList.drop (i + mark.length))) ∧
      (¬ ("---".toList <+: document.toList ∧ (closings document.toList).Nonempty) →
        strip document = document) ∧
      (∀ i, i ∈ closings document.toList ↔
        3 ≤ i ∧ ∃ mark, IsClosingMatch mark ∧ mark <+: document.toList.drop i) ∧
      ∀ front : List Char, front.length ∉ closings (front ++ "\n---".toList) := by
  have hchars : (strip document).toList = stripChars document.toList := String.toList_ofList
  refine ⟨fun i hopening hi => ?_, fun h => ?_, fun i => mem_closings_iff_match,
    length_not_mem_closings⟩
  · rw [hchars]
    have hcloses := closes_stripChars hopening hi
    refine ⟨hcloses, hcloses.suffix.trans (List.drop_suffix i _), fun hsame => ?_, ?_⟩
    · have hshort := hcloses.length_lt
      rw [← hchars, hsame, List.length_drop] at hshort
      omega
    · rintro mark hmark ⟨tail, htail⟩
      have htrimmed := closes_of_match hmark tail
      rw [htail] at htrimmed
      rw [← List.drop_drop, ← htail, List.drop_left]
      exact closes_unique hcloses htrimmed
  · rw [← String.toList_inj, hchars, stripChars_of_no_closing h]

/-- Front matter with two lines that look like its end: one of four hyphens and one with a text. -/
def deceptive : String := "---\ntitle: x\n----\n--- y\n---\u00a0\n\n \tText\n---\nend"

/-- Front matter that closes at the end of the text, without a line end. -/
def unclosed : String := "---\ntitle: x\n---"

theorem not_mem_closings_unclosed (i : Nat) : i ∉ closings unclosed.toList := by
  rw [mem_closings_iff_isSome]
  rcases Nat.lt_or_ge i unclosed.toList.length with hlt | hge
  · revert i
    decide
  · rw [List.drop_eq_nil_of_le hge]
    exact fun h => absurd h.2 (by decide)

theorem front_matter_is_one_block_deceptive :
    "---".toList <+: deceptive.toList ∧ IsLeast (closings deceptive.toList) 23 ∧
      Closes (deceptive.toList.drop 23) "Text\n---\nend".toList ∧
      strip deceptive = "Text\n---\nend" ∧ strip deceptive ≠ deceptive ∧
      (strip deceptive).toList =
        Text.trimStart (deceptive.toList.drop (23 + "\n---\u00a0\n".toList.length)) ∧
      strip unclosed = unclosed := by
  have hopening : "---".toList <+: deceptive.toList := by decide
  have hleast : IsLeast (closings deceptive.toList) 23 := by
    refine ⟨mem_closings_iff_isSome.mpr (by decide), fun j hj => ?_⟩
    have hbefore : ∀ j < 23,
        ¬ (3 ≤ j ∧ (afterClosing? (deceptive.toList.drop j)).isSome = true) := by
      decide
    exact Nat.not_lt.mp fun hlt => hbefore j hlt (mem_closings_iff_isSome.mp hj)
  obtain ⟨hblock, -⟩ := front_matter_is_one_block deceptive
  obtain ⟨hcloses, -, hne, hmatch⟩ := hblock 23 hopening hleast
  have hstrip : strip deceptive = "Text\n---\nend" := by decide
  obtain ⟨-, hother, -⟩ := front_matter_is_one_block unclosed
  refine ⟨hopening, hleast, hstrip ▸ hcloses, hstrip, hne, ?_, hother ?_⟩
  · have hblank : ∀ c ∈ ['\u00a0'], Text.isBlank c = true :=
      List.forall_mem_singleton.mpr (by decide)
    exact hmatch "\n---\u00a0\n".toList ⟨['\u00a0'], by decide, hblank⟩ (by decide)
  · rintro ⟨-, i, hi⟩
    exact not_mem_closings_unclosed i hi

end ChapterTex.FrontMatter
