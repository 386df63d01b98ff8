import Mathlib.Logic.Function.Iterate
import ChapterTex.Latex.Escape

/-!
Escaped text as a code. Every reserved character has a codeword and every other one stands for
itself; no codeword starts another one, so escaped text can be read back from the left.
-/
namespace ChapterTex.Latex

/-- The codewords with the characters that they print. -/
def codewords : List (List Char × Char) :=
  [("\\textasciitilde ".toList, '~'), ("\\textasciicircum ".toList, '^'),
    ("\\textbackslash ".toList, '\\')] ++
    ['&', '%', '$', '#', '_', '{', '}'].map fun c => (['\\', c], c)

def codewordAt? (s : List Char) : Option (List Char × Char) :=
  codewords.find? fun entry => entry.1.isPrefixOf s

/-- Reads escaped text from the left. `skip` characters belong to a codeword that was read; a
reserved character outside of a codeword cannot be read. -/
def decodeFrom : Nat → List Char → Option (List Char)
  | _, [] => some []
  | skip + 1, _ :: rest => decodeFrom skip rest
  | 0, c :: rest =>
    match codewordAt? (c :: rest) with
    | some (word, d) => (decodeFrom (word.length - 1) rest).map (d :: ·)
    | none => if isReserved c then none else (decodeFrom 0 rest).map (c :: ·)

/-- The text whose escaped form is given. -/
def decode (s : String) : Option String := (decodeFrom 0 s.toList).map String.ofList

/-- What prints one character: a codeword, or a character that is not reserved. -/
def IsSymbol (u : List Char) : Prop :=
  (∃ c, (u, c) ∈ codewords) ∨ ∃ c, isReserved c = false ∧ u = [c]

variable {s t word rest before after : List Char} {c d : Char}

theorem mem_codewords_iff : (word, c) ∈ codewords ↔ isReserved c = true ∧ word = sequence c := by
  have hwords : ∀ entry ∈ codewords, isReserved entry.2 = true ∧ entry.1 = sequence entry.2 := by
    decide
  have hreserved : ∀ c ∈ reserved, (sequence c, c) ∈ codewords := by
    simp only [reserved, List.forall_mem_cons, List.not_mem_nil, false_implies, implies_true]
    decide
  constructor
  · exact fun h => hwords _ h
  · rintro ⟨hc, rfl⟩
    exact hreserved c (List.contains_iff_mem.mp hc)

theorem codewords_prefix_free :
    ∀ u ∈ codewords, ∀ v ∈ codewords, u.1 <+: v.1 → u = v := by
  decide

theorem exists_tail_of_mem_codewords (h : (word, c) ∈ codewords) : ∃ tail, word = '\\' :: tail := by
  have hhead : ∀ entry ∈ codewords, entry.1.head? = some '\\' := by decide
  exact List.head?_eq_some_iff.mp (hhead _ h)

/-- A codeword is recognised whatever follows it. -/
theorem codewordAt?_append (h : (word, c) ∈ codewords) (t : List Char) :
    codewordAt? (word ++ t) = some (word, c) := by
  have hstart : word <+: word ++ t := List.prefix_append word t
  have hsome : (codewordAt? (word ++ t)).isSome := by
    rw [codewordAt?, List.find?_isSome]
    exact ⟨_, h, List.isPrefixOf_iff_prefix.mpr hstart⟩
  obtain ⟨entry, hentry⟩ := Option.isSome_iff_exists.mp hsome
  have hmem : entry ∈ codewords := List.mem_of_find?_eq_some hentry
  have hprefix : entry.1 <+: word ++ t :=
    List.isPrefixOf_iff_prefix.mp (by simpa using List.find?_some hentry)
  have heq : entry = (word, c) := by
    rcases List.prefix_or_prefix_of_prefix hprefix hstart with hle | hle
    · exact codewords_prefix_free _ hmem _ h hle
    · exact (codewords_prefix_free _ h _ hmem hle).symm
  rw [hentry, heq]

theorem eq_append_of_codewordAt? (h : codewordAt? (c :: rest) = some (word, d)) :
    (word, d) ∈ codewords ∧ c :: rest = word ++ rest.drop (word.length - 1) := by
  have hmem : (word, d) ∈ codewords := List.mem_of_find?_eq_some h
  obtain ⟨tail, rfl⟩ := exists_tail_of_mem_codewords hmem
  obtain ⟨after, hafter⟩ : '\\' :: tail <+: c :: rest :=
    List.isPrefixOf_iff_prefix.mp (by simpa using List.find?_some h)
  rw [List.cons_append, List.cons.injEq] at hafter
  obtain ⟨rfl, rfl⟩ := hafter
  exact ⟨hmem, by simp⟩

/-- Codewords start with a backslash, which is reserved itself. -/
theorem codewordAt?_of_not_reserved (hc : isReserved c = false) (t : List Char) :
    codewordAt? (c :: t) = none := by
  cases hword : codewordAt? (c :: t) with
  | none => rfl
  | some entry =>
    obtain ⟨hmem, heq⟩ := eq_append_of_codewordAt? hword
    obtain ⟨tail, htail⟩ := exists_tail_of_mem_codewords hmem
    rw [htail, List.cons_append, List.cons.injEq] at heq
    rw [heq.1] at hc
    exact absurd hc (by decide)

/-! Reading escaped text gives the text, and nothing but escaped text can be read. -/

theorem decodeFrom_append (s t : List Char) : decodeFrom s.length (s ++ t) = decodeFrom 0 t := by
  induction s with
  | nil => rfl
  | cons c s ih => exact ih

theorem decodeFrom_escapeChar (c : Char) (t : List Char) :
    decodeFrom 0 (escapeChar c ++ t) = (decodeFrom 0 t).map (c :: ·) := by
  unfold escapeChar
  by_cases hc : isReserved c = true
  · have hmem := mem_codewords_iff.mpr ⟨hc, rfl⟩
    have hword := codewordAt?_append hmem t
    obtain ⟨tail, htail⟩ := exists_tail_of_mem_codewords hmem
    rw [htail, List.cons_append] at hword
    rw [if_pos hc, htail, List.cons_append]
    simp only [decodeFrom, hword, List.length_cons, Nat.add_sub_cancel, decodeFrom_append]
  · have hnot : isReserved c = false := by simpa using hc
    rw [if_neg hc, List.singleton_append, decodeFrom, codewordAt?_of_not_reserved hnot]
    simp only [hnot, Bool.false_eq_true, if_false]

theorem escapeChars_cons (c : Char) (s : List Char) :
    escapeChars (c :: s) = escapeChar c ++ escapeChars s :=
  List.flatMap_cons

theorem decodeFrom_escapeChars (s : List Char) : decodeFrom 0 (escapeChars s) = some s := by
  induction s with
  | nil => rfl
  | cons c s ih => rw [escapeChars_cons, decodeFrom_escapeChar, ih, Option.map_some]

theorem eq_escapeChars_of_decodeFrom {skip : Nat} (h : decodeFrom skip t = some s) :
    t.drop skip = escapeChars s := by
  fun_induction decodeFrom skip t generalizing s with
  | case1 skip =>
    cases h
    rw [List.drop_nil, escapeChars_nil]
  | case2 skip c rest ih => exact ih h
  | case3 c rest word d hword ih =>
    obtain ⟨tail, htail, rfl⟩ := Option.map_eq_some_iff.mp h
    obtain ⟨hmem, heq⟩ := eq_append_of_codewordAt? hword
    obtain ⟨hd, rfl⟩ := mem_codewords_iff.mp hmem
    rw [List.drop_zero, heq, ih htail, escapeChars_cons, escapeChar, if_pos hd]
  | case4 c rest hword hc => cases h
  | case5 c rest hword hc ih =>
    obtain ⟨tail, htail, rfl⟩ := Option.map_eq_some_iff.mp h
    rw [List.drop_zero, escapeChars_cons, escapeChar, if_neg hc, List.singleton_append, ← ih htail,
      List.drop_zero]

theorem decode_escape (s : String) : decode (escape s) = some s := by
  rw [decode, toList_escape, decodeFrom_escapeChars, Option.map_some, String.ofList_toList]

theorem escape_injective : Function.Injective escape := by
  intro s t h
  have hdecode := decode_escape s
  rw [h, decode_escape] at hdecode
  exact (Option.some.inj hdecode).symm

theorem decode_eq_some_iff {s t : String} : decode t = some s ↔ escape s = t := by
  constructor
  · intro h
    obtain ⟨cs, hcs, rfl⟩ := Option.map_eq_some_iff.mp h
    rw [← String.toList_inj, toList_escape, String.toList_ofList,
      ← eq_escapeChars_of_decodeFrom hcs, List.drop_zero]
  · rintro rfl
    exact decode_escape s

/-! The texts that are the escaped form of some text. -/

theorem isSymbol_iff {u : List Char} : IsSymbol u ↔ ∃ c, escapeChar c = u := by
  constructor
  · rintro (⟨c, hc⟩ | ⟨c, hc, rfl⟩)
    · obtain ⟨hreserved, rfl⟩ := mem_codewords_iff.mp hc
      exact ⟨c, if_pos hreserved⟩
    · exact ⟨c, if_neg (by simp [hc])⟩
  · rintro ⟨c, rfl⟩
    unfold escapeChar
    by_cases hc : isReserved c = true
    · rw [if_pos hc]
      exact .inl ⟨c, mem_codewords_iff.mpr ⟨hc, rfl⟩⟩
    · rw [if_neg hc]
      exact .inr ⟨c, by simpa using hc, rfl⟩

theorem exists_escapeChars_eq_iff :
    (∃ s, escapeChars s = t) ↔
      ∃ symbols : List (List Char), (∀ u ∈ symbols, IsSymbol u) ∧ symbols.flatten = t := by
  constructor
  · rintro ⟨s, rfl⟩
    refine ⟨s.map escapeChar, ?_, List.flatMap_def.symm⟩
    intro u hu
    obtain ⟨c, -, rfl⟩ := List.mem_map.mp hu
    exact isSymbol_iff.mpr ⟨c, rfl⟩
  · rintro ⟨symbols, hsymbols, rfl⟩
    induction symbols with
    | nil => exact ⟨[], rfl⟩
    | cons u symbols ih =>
      obtain ⟨hu, hrest⟩ := List.forall_mem_cons.mp hsymbols
      obtain ⟨c, rfl⟩ := isSymbol_iff.mp hu
      obtain ⟨s, hs⟩ := ih hrest
      exact ⟨c :: s, by rw [escapeChars_cons, hs, List.flatten_cons]⟩

/-- A reserved character in escaped text stands inside the codeword of some character of the
text. -/
theorem exists_codeword_of_reserved (h : escapeChars s = before ++ c :: after)
    (hc : isReserved c = true) :
    ∃ s₁ d s₂ p q, s = s₁ ++ d :: s₂ ∧ (p ++ c :: q, d) ∈ codewords ∧
      before = escapeChars s₁ ++ p ∧ after = q ++ escapeChars s₂ := by
  induction s generalizing before with
  | nil => simp at h
  | cons a s ih =>
    -- Either the character stands behind the symbol of the first one, or within it.
    have hlater : ∀ p, escapeChars s = p ++ c :: after → before = escapeChar a ++ p →
        ∃ s₁ d s₂ p q, a :: s = s₁ ++ d :: s₂ ∧ (p ++ c :: q, d) ∈ codewords ∧
          before = escapeChars s₁ ++ p ∧ after = q ++ escapeChars s₂ := by
      intro p hp hbefore
      obtain ⟨s₁, d, s₂, p', q, rfl, hword, rfl, hafter⟩ := ih hp
      refine ⟨a :: s₁, d, s₂, p', q, rfl, hword, ?_, hafter⟩
      rw [hbefore, escapeChars_cons, List.append_assoc]
    rw [escapeChars_cons] at h
    rcases List.append_eq_append_iff.mp h with ⟨p, hbefore, hp⟩ | ⟨p, hsymbol, hp⟩
    · exact hlater p hp hbefore
    · cases p with
      | nil => exact hlater [] hp.symm (by simpa using hsymbol.symm)
      | cons e q =>
        rw [List.cons_append, List.cons.injEq] at hp
        obtain ⟨rfl, rfl⟩ := hp
        have ha : isReserved a = true := by
          by_contra hnot
          rw [escapeChar, if_neg hnot] at hsymbol
          cases before with
          | nil =>
            cases hsymbol
            exact hnot hc
          | cons b before => simp at hsymbol
        rw [escapeChar, if_pos ha] at hsymbol
        refine ⟨[], a, s, before, q, rfl, ?_, rfl, rfl⟩
        exact mem_codewords_iff.mpr ⟨ha, hsymbol.symm⟩

/-- Tilde and caret occur in no codeword, so they do not occur in escaped text. -/
theorem not_mem_escapeChars (hc : c = '~' ∨ c = '^') (s : List Char) : c ∉ escapeChars s := by
  have hwords : ∀ entry ∈ codewords, '~' ∉ entry.1 ∧ '^' ∉ entry.1 := by decide
  intro hmem
  obtain ⟨before, after, hsplit⟩ := List.append_of_mem hmem
  have hreserved : isReserved c = true := by rcases hc with rfl | rfl <;> decide
  obtain ⟨-, d, -, p, q, -, hword, -⟩ := exists_codeword_of_reserved hsplit hreserved
  obtain ⟨htilde, hcaret⟩ := hwords _ hword
  rcases hc with rfl | rfl
  · exact htilde (by simp)
  · exact hcaret (by simp)

/-- Escaping what was escaped changes nothing, however often it is done. -/
theorem escapeDatum_iterate {d e : Datum} (h : escapeDatum d = .ok e) (n : Nat) :
    (fun x => x >>= escapeDatum)^[n] (.ok e) = .ok e := by
  have hfixed : (Except.ok e >>= escapeDatum : Except Failure Datum) = .ok e := by
    cases d <;> cases h <;> rfl
  exact Function.iterate_fixed hfixed n

/-- Escaping is an encoding of plain text that can be read back exactly. It goes character by
character and loses nothing; its results are the texts that split into symbols, so the reserved
characters in them stand inside codewords; and text that is escaped stays as it is. -/
theorem escape_exactly_decodable :
    (∀ s t : String, escape (s ++ t) = escape s ++ escape t) ∧
      (∀ s, decode (escape s) = some s) ∧ Function.Injective escape ∧
      (∀ t : String, (∃ s, escape s = t) ↔
        ∃ symbols : List (List Char), (∀ u ∈ symbols, IsSymbol u) ∧ symbols.flatten = t.toList) ∧
      (∀ s, '~' ∉ (escape s).toList ∧ '^' ∉ (escape s).toList) ∧
      (∀ (s : String) (before : List Char) (c : Char) (after : List Char),
        (escape s).toList = before ++ c :: after → isReserved c = true →
          ∃ s₁ d s₂ p q, s.toList = s₁ ++ d :: s₂ ∧ (p ++ c :: q, d) ∈ codewords ∧
            before = escapeChars s₁ ++ p ∧ after = q ++ escapeChars s₂) ∧
      (∀ (s : String) (n : Nat),
        (fun x => x >>= escapeDatum)^[n] (.ok (.latex s)) = .ok (.latex s)) ∧
      (∀ (s : String) (n : Nat),
        (fun x => x >>= escapeDatum)^[n] (escapeDatum (.text s)) = .ok (.latex (escape s))) := by
  refine ⟨escape_append, decode_escape, escape_injective, fun t => ?_, fun s => ?_, ?_,
    fun s n => escapeDatum_iterate (escapeDatum_latex s) n, fun s n => ?_⟩
  · rw [← exists_escapeChars_eq_iff]
    constructor
    · rintro ⟨s, rfl⟩
      exact ⟨s.toList, (toList_escape s).symm⟩
    · rintro ⟨cs, hcs⟩
      refine ⟨String.ofList cs, ?_⟩
      rw [← String.toList_inj, toList_escape, String.toList_ofList, hcs]
  · rw [toList_escape]
    exact ⟨not_mem_escapeChars (.inl rfl) _, not_mem_escapeChars (.inr rfl) _⟩
  · intro s before c after h hc
    rw [toList_escape] at h
    exact exists_codeword_of_reserved h hc
  · rw [escapeDatum_text]
    exact escapeDatum_iterate (escapeDatum_text s) n

/-- The space at the end of a codeword belongs to it, and a space behind it does not. -/
example : decode "\\textbackslash  a\\&" = some "\\ a&" := by decide +kernel

end ChapterTex.Latex
