import ChapterTex.Proofs.Json.Reading

/-!
Integers with too many digits. Reading stops at such an integer whatever stands behind it, and that
although everything before it was read: a list of objects is not read if the first of them has one
behind fields with texts.
-/
namespace ChapterTex.Json
variable {rest s : List Char}

theorem ne_of_isDigit {c d : Char} (hc : c.isDigit = true) (hd : d.isDigit = false) : c ≠ d := by
  rintro rfl
  cases hc.symm.trans hd

theorem skipSpace_cons {c : Char} (hc : isSpace c = false) (s : List Char) :
    skipSpace (c :: s) = c :: s := by
  simp [skipSpace, hc]

/-- Digits that are read as one integer with too many of them, if `rest` is behind them. -/
structure IsLong (digits rest : List Char) : Prop where
  isDigit : ∀ c ∈ digits, c.isDigit = true
  head : digits.head? ≠ some '0'
  length : maxDigits < digits.length
  ends : ∀ c ∈ rest.head?, c.isDigit = false ∧ c ≠ '.' ∧ c ≠ 'e' ∧ c ≠ 'E'

namespace IsLong
variable {digits : List Char}

theorem exists_cons (h : IsLong digits rest) :
    ∃ c tail, digits = c :: tail ∧ c.isDigit = true := by
  cases digits with
  | nil => cases h.length
  | cons c tail => exact ⟨c, tail, rfl, h.isDigit c List.mem_cons_self⟩

theorem whole?_eq (h : IsLong digits rest) : whole? (digits ++ rest) = some (digits, rest) := by
  have hrest : rest.takeWhile Char.isDigit = [] ∧ rest.dropWhile Char.isDigit = rest := by
    cases rest with
    | nil => exact ⟨rfl, rfl⟩
    | cons c rest => simp [(h.ends c rfl).1]
  have htake : (digits ++ rest).takeWhile Char.isDigit = digits := by
    rw [List.takeWhile_append_of_pos h.isDigit, hrest.1, List.append_nil]
  have hdrop : (digits ++ rest).dropWhile Char.isDigit = rest := by
    rw [List.dropWhile_append_of_pos h.isDigit, hrest.2]
  obtain ⟨c, tail, rfl, hc⟩ := h.exists_cons
  have hzero : c ≠ '0' := by simpa using h.head
  rw [List.cons_append] at htake hdrop ⊢
  simp [whole?, hc, htake, hdrop]

theorem number?_eq (h : IsLong digits rest) :
    number? (digits ++ rest) = some (.error (.digits digits.length)) := by
  have hfraction : fraction? rest = none := by
    cases rest with
    | nil => rfl
    | cons c rest => simp [fraction?, (h.ends c rfl).2.1]
  have hexponent : exponent? rest = none := by
    cases rest with
    | nil => rfl
    | cons c rest => simp [exponent?, (h.ends c rfl).2.2]
  have hwhole := h.whole?_eq
  have hlength := h.length
  obtain ⟨c, tail, rfl, hc⟩ := h.exists_cons
  have hsign : c ≠ '-' := ne_of_isDigit hc rfl
  rw [List.cons_append] at hwhole ⊢
  simpa [number?, hsign, hwhole, hfraction, hexponent] using hlength

theorem skipSpace_eq (h : IsLong digits rest) : skipSpace (digits ++ rest) = digits ++ rest := by
  obtain ⟨c, tail, rfl, hc⟩ := h.exists_cons
  exact skipSpace_cons (by simp [isSpace, ne_of_isDigit hc]) (tail ++ rest)

theorem valueWithin_eq (h : IsLong digits rest) (fuel : Nat) :
    valueWithin (fuel + 1) (digits ++ rest) = .error (.digits digits.length) := by
  have hnumber := h.number?_eq
  obtain ⟨c, tail, rfl, hc⟩ := h.exists_cons
  have hother {d : Char} := ne_of_isDigit (d := d) hc
  rw [List.cons_append] at hnumber ⊢
  have hscalar : scalar (c :: (tail ++ rest)) = .error (.digits (c :: tail).length) := by
    simp [scalar, words, afterWord?, hother, hnumber]
  simp [valueWithin, hother, hscalar]

end IsLong

/-! Strings of plain characters are read as they stand. -/

/-- Characters that stand for themselves in a string. -/
def IsPlain (c : Char) : Prop := c ≠ '"' ∧ c ≠ '\\' ∧ 32 ≤ c.toNat

theorem stringFrom_plain {cs : List Char} (hplain : ∀ c ∈ cs, IsPlain c) {opened fuel : Nat}
    (hfuel : cs.length < fuel) (rest : List Char) :
    stringFrom opened fuel (cs ++ '"' :: rest) = .ok (cs, rest) := by
  induction cs generalizing fuel with
  | nil =>
    cases fuel with
    | zero => cases hfuel
    | succ fuel => rfl
  | cons c cs ih =>
    cases fuel with
    | zero => cases hfuel
    | succ fuel =>
      obtain ⟨⟨hquote, hslash, hspace⟩, hcs⟩ := List.forall_mem_cons.mp hplain
      have hrest := ih hcs (Nat.lt_of_succ_lt_succ hfuel)
      rw [List.cons_append]
      unfold stringFrom
      rw [if_neg (by simpa using hquote), if_neg (by simpa using hslash),
        if_neg (Nat.not_lt.mpr hspace), hrest]
      rfl

theorem string_plain {t : String} (hplain : ∀ c ∈ t.toList, IsPlain c) (rest : List Char) :
    string (t.toList ++ '"' :: rest) = .ok (t, rest) := by
  have hlength : t.toList.length < (t.toList ++ '"' :: rest).length + 1 := by
    rw [List.length_append]
    omega
  rw [string, stringFrom_plain hplain hlength]
  exact congrArg (fun u => Except.ok (u, rest)) String.ofList_toList

section Fields
variable {fuel : Nat} {fields : Record Datum} {name value : String} {digits : List Char} {e : Stop}

/-- A field up to its value. -/
def fieldOpening (name : String) : List Char := '"' :: name.toList ++ "\":".toList

/-- A field whose value is a text, and the comma behind it. -/
def textField (name value : String) : List Char :=
  fieldOpening name ++ '"' :: value.toList ++ "\",".toList

def textFields : List (String × String) → List Char
  | [] => []
  | (name, value) :: texts => textField name value ++ textFields texts

theorem fieldOpening_append (name : String) (s : List Char) :
    fieldOpening name ++ s = '"' :: (name.toList ++ '"' :: ':' :: s) := by
  simp [fieldOpening]

theorem exists_textFields_append (texts : List (String × String)) (s : List Char) :
    ∃ t, textFields texts ++ '"' :: s = '"' :: t := by
  cases texts with
  | nil => exact ⟨s, rfl⟩
  | cons text texts => exact ⟨_, rfl⟩

theorem fieldsWithin_error (hname : ∀ c ∈ name.toList, IsPlain c)
    (h : valueWithin fuel (skipSpace s) = .error e) :
    fieldsWithin (fuel + 1) fields (fieldOpening name ++ s) = .error e := by
  rw [fieldOpening_append, fieldsWithin, string_plain hname]
  simp only [bind, Except.bind, skipSpace_cons (c := ':') rfl, h]

theorem fieldsWithin_textField (hname : ∀ c ∈ name.toList, IsPlain c)
    (hvalue : ∀ c ∈ value.toList, IsPlain c) (s : List Char) :
    fieldsWithin (fuel + 2) fields (textField name value ++ s) =
      fieldsWithin (fuel + 1) (fields.put name (.text value)) (skipSpace s) := by
  have htext : textField name value ++ s =
      fieldOpening name ++ '"' :: (value.toList ++ '"' :: ',' :: s) := by
    simp [textField]
  have hread : valueWithin (fuel + 1) ('"' :: (value.toList ++ '"' :: ',' :: s)) =
      .ok (.text value, ',' :: s) := by
    rw [valueWithin, string_plain hvalue]
    rfl
  rw [htext, fieldOpening_append, fieldsWithin, string_plain hname]
  simp only [bind, Except.bind, skipSpace_cons (c := ':') rfl, skipSpace_cons (c := '"') rfl,
    skipSpace_cons (c := ',') rfl, hread]

/-- Fields with texts are read, and then reading stops where it stops without them. -/
theorem fieldsWithin_textFields {texts : List (String × String)}
    (htexts : ∀ text ∈ texts, ∀ c ∈ text.1.toList ++ text.2.toList, IsPlain c)
    (h : ∀ fields, fieldsWithin (fuel + 1) fields ('"' :: s) = .error e) (fields : Record Datum) :
    fieldsWithin (fuel + texts.length + 1) fields (textFields texts ++ '"' :: s) = .error e := by
  induction texts generalizing fields with
  | nil => exact h fields
  | cons text texts ih =>
    obtain ⟨htext, htexts⟩ := List.forall_mem_cons.mp htexts
    obtain ⟨hname, hvalue⟩ := List.forall_mem_append.mp htext
    have hrest := ih htexts (fields.put text.1 (.text text.2))
    obtain ⟨next, hnext⟩ := exists_textFields_append texts s
    rw [hnext] at hrest
    rw [textFields, List.append_assoc, List.length_cons, ← Nat.add_assoc,
      fieldsWithin_textField hname hvalue, hnext, skipSpace_cons rfl, hrest]

theorem valueWithin_list_object (h : fieldsWithin fuel [] ('"' :: s) = .error e) :
    valueWithin (fuel + 3) ('[' :: '{' :: '"' :: s) = .error e := by
  have hobject : valueWithin (fuel + 1) ('{' :: '"' :: s) = .error e := by
    rw [valueWithin, skipSpace_cons rfl]
    exact congrArg (· >>= fun p => pure (Datum.dict p.1, p.2)) h
  have hitems : itemsWithin (fuel + 2) ('{' :: '"' :: s) = .error e := by
    rw [itemsWithin, hobject]
    rfl
  rw [valueWithin, skipSpace_cons rfl]
  exact congrArg (· >>= fun p => pure (Datum.list p.1, p.2)) hitems

/-- A list of objects is not read if the first of them has an integer with too many digits behind
fields with texts. -/
theorem parse_of_isLong (texts : List (String × String)) (name : String)
    (htexts : ∀ text ∈ texts, ∀ c ∈ text.1.toList ++ text.2.toList, IsPlain c)
    (hname : ∀ c ∈ name.toList, IsPlain c) (h : IsLong digits rest) :
    parse (String.ofList
        ('[' :: '{' :: (textFields texts ++ (fieldOpening name ++ (digits ++ rest))))) =
      .error (.digits digits.length) := by
  have hlong (fuel : Nat) (fields : Record Datum) :
      fieldsWithin (fuel + 2) fields ('"' :: (name.toList ++ '"' :: ':' :: (digits ++ rest))) =
        .error (.digits digits.length) := by
    rw [← fieldOpening_append]
    exact fieldsWithin_error hname (by rw [h.skipSpace_eq, h.valueWithin_eq])
  have hfields (fuel : Nat) := fieldsWithin_textFields htexts (hlong fuel) []
  obtain ⟨t, ht⟩ :=
    exists_textFields_append texts (name.toList ++ '"' :: ':' :: (digits ++ rest))
  rw [ht] at hfields
  have hdocument : document ('[' :: '{' :: '"' :: t) = .error (.digits digits.length) := by
    have hfuel : 2 * ('[' :: '{' :: '"' :: t).length <
        2 * t.length + 4 + 1 + texts.length + 1 + 3 := by
      simp only [List.length_cons]
      omega
    rw [← documentWithin_eq hfuel, documentWithin, skipSpace_cons rfl,
      valueWithin_list_object (hfields (2 * t.length + 4))]
    rfl
  rw [fieldOpening_append, ht]
  simp [parse, hdocument]

end Fields

end ChapterTex.Json
