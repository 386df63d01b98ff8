import Mathlib.Data.List.Infix
import Mathlib.Data.List.TakeWhile
import ChapterTex.Json.Reader

/-!
What readers take from a text. Every reader leaves an end of the text it was given, and a value
takes at least one character, so the fuel of a document never runs out. Where an integer stops the
reader, the text has as many digits in a row.
-/
namespace ChapterTex.Json
variable {α β : Type} {k n count : Nat} {s t rest : List Char}

/-- A text has so many digits in a row, which are more than an integer may have. -/
def HasLongRun (count : Nat) (s : List Char) : Prop :=
  maxDigits < count ∧
    ∃ digits, digits <:+: s ∧ digits.length = count ∧ ∀ c ∈ digits, c.isDigit = true

theorem HasLongRun.of_suffix (h : HasLongRun count s) (hs : s <:+ t) : HasLongRun count t := by
  obtain ⟨hcount, digits, hdigits, hlength⟩ := h
  exact ⟨hcount, digits, hdigits.trans hs.isInfix, hlength⟩

/-- The outcome of a reader on a text from which it takes at least `k` characters. -/
def Takes (k : Nat) (s : List Char) : Except Stop (α × List Char) → Prop
  | .ok (_, rest) => rest <:+ s ∧ rest.length + k ≤ s.length
  | .error (.digits count) => HasLongRun count s
  | .error _ => True

namespace Takes
variable {x : Except Stop (α × List Char)} {f : α × List Char → Except Stop (β × List Char)}

theorem suffix {a : α} (h : Takes k s x) (hx : x = .ok (a, rest)) : rest <:+ s := by
  subst hx
  exact h.1

theorem length_le {a : α} (h : Takes k s x) (hx : x = .ok (a, rest)) :
    rest.length + k ≤ s.length := by
  subst hx
  exact h.2

theorem done {a : α} (hrest : rest <:+ s) :
    Takes 0 s (.ok (a, rest) : Except Stop (α × List Char)) :=
  ⟨hrest, hrest.length_le⟩

theorem fault (cause : Cause) (rest : List Char) :
    Takes k s (stop cause rest : Except Stop (α × List Char)) := trivial

/-- A reader that starts further on takes what stands in between as well. -/
theorem of_suffix {j : Nat} (h : Takes j s x) (hs : s <:+ t) (hk : s.length + k ≤ t.length + j) :
    Takes k t x := by
  match x, h with
  | .ok (a, rest), ⟨hrest, hle⟩ => exact ⟨hrest.trans hs, by omega⟩
  | .error (.digits count), h => exact HasLongRun.of_suffix h hs
  | .error (.fault _ _), _ => trivial
  | .error .halfPair, _ => trivial

theorem later (h : Takes k s x) (hs : s <:+ t) : Takes 0 t x :=
  h.of_suffix hs (Nat.le_add_right_of_le hs.length_le)

theorem behind (h : Takes k s x) (hs : s <:+ t) (c : Char) : Takes 1 (c :: t) x :=
  (h.later hs).of_suffix (List.suffix_cons c t) (by simp)

theorem bind (hx : Takes k s x) (hf : ∀ a rest, x = .ok (a, rest) → Takes 0 rest (f (a, rest))) :
    Takes k s (x >>= f) := by
  match x, hx with
  | .ok (a, rest), ⟨hrest, hle⟩ => exact (hf a rest rfl).of_suffix hrest (by omega)
  | .error (.digits count), h => exact h
  | .error (.fault _ _), _ => trivial
  | .error .halfPair, _ => trivial

/-- A value that is made of what was read. -/
theorem map {g : α → β} (h : Takes k s x) :
    Takes k s (x >>= fun p => pure (g p.1, p.2)) :=
  h.bind fun _ _ _ => done List.suffix_rfl

end Takes

theorem skipSpace_suffix (s : List Char) : skipSpace s <:+ s := List.dropWhile_suffix _

theorem suffix_of_skipSpace {c : Char} (h : skipSpace s = c :: rest) : rest <:+ s :=
  (List.suffix_cons c rest).trans (h ▸ skipSpace_suffix s)

theorem eq_of_afterWord? {word : List Char} (h : afterWord? word s = some rest) :
    s = word ++ rest := by
  induction word generalizing s with
  | nil =>
    cases h
    rfl
  | cons w word ih =>
    cases s with
    | nil => cases h
    | cons c s =>
      obtain ⟨hc, hrest⟩ := Option.ite_none_right_eq_some.mp h
      rw [ih hrest, eq_of_beq hc, List.cons_append]

theorem takes_unitChar (hrest : rest <:+ s) : Takes 0 s ((·, rest) <$> unitChar n) := by
  unfold unitChar
  split
  · trivial
  · exact .done hrest

theorem takes_unicodeEscape (s : List Char) : Takes 0 s (unicodeEscape s) := by
  have hdrop : s.drop 4 <:+ s := List.drop_suffix 4 s
  unfold unicodeEscape
  dsimp only
  split
  · trivial
  · split
    · trivial
    · split
      · split
        · exact takes_unitChar hdrop
        · next htail =>
          have htail := (List.suffix_append _ _).trans (eq_of_afterWord? htail ▸ hdrop)
          have hsuffix := (List.drop_suffix 4 _).trans htail
          split
          · trivial
          · split
            · exact .done hsuffix
            · exact takes_unitChar hdrop
      · exact takes_unitChar hdrop

theorem takes_stringFrom (opened fuel : Nat) (s : List Char) :
    Takes 0 s (stringFrom opened fuel s) := by
  induction fuel generalizing s with
  | zero => trivial
  | succ fuel ih =>
    have hmore (d : Char) {s t : List Char} (hs : s <:+ t) :
        Takes 0 t (stringFrom opened fuel s >>= fun p => pure (d :: p.1, p.2)) :=
      (ih s).map.later hs
    cases s with
    | nil => trivial
    | cons c rest =>
      have hrest : rest <:+ c :: rest := List.suffix_cons c rest
      unfold stringFrom
      split
      · exact .done hrest
      · split
        · split
          · trivial
          · next digits =>
            have hescape : Takes 0 digits (unicodeEscape digits >>= fun p =>
                stringFrom opened fuel p.2 >>= fun q => pure (p.1 :: q.1, q.2)) :=
              (takes_unicodeEscape digits).bind fun d _ _ => hmore d List.suffix_rfl
            exact hescape.later ((List.suffix_cons 'u' digits).trans hrest)
          · next e rest _ =>
            split
            · trivial
            · next d _ => exact hmore d ((List.suffix_cons e rest).trans hrest)
        · split
          · trivial
          · exact hmore c hrest

theorem takes_string (s : List Char) : Takes 0 s (string s) :=
  (takes_stringFrom _ _ s).map

/-! Numbers. -/

theorem fraction_suffix (s : List Char) : ((fraction? s).getD ([], s)).2 <:+ s := by
  unfold fraction?
  split
  · next rest =>
    dsimp only
    split
    · exact List.suffix_rfl
    · exact (List.dropWhile_suffix _).trans (List.suffix_cons '.' rest)
  · exact List.suffix_rfl

theorem exponent_suffix (s : List Char) : ((exponent? s).getD (0, s)).2 <:+ s := by
  unfold exponent?
  split
  · next e rest =>
    split
    · split
      rename_i negative digits hsign
      have hdigits : digits <:+ e :: rest := by
        split at hsign <;> cases hsign
        · exact (List.suffix_cons '-' _).trans (List.suffix_cons e _)
        · exact (List.suffix_cons '+' _).trans (List.suffix_cons e _)
        · exact List.suffix_cons e _
      dsimp only
      split
      · exact List.suffix_rfl
      · exact (List.dropWhile_suffix _).trans hdigits
    · exact List.suffix_rfl
  · exact List.suffix_rfl

theorem whole?_eq_some {digits : List Char} (h : whole? s = some (digits, rest)) :
    s = digits ++ rest ∧ digits ≠ [] ∧ ∀ c ∈ digits, c.isDigit = true := by
  unfold whole? at h
  split at h
  · cases h
    exact ⟨rfl, by simp, by simp⟩
  · next c tail _ =>
    obtain ⟨hc, hsplit⟩ := Option.ite_none_right_eq_some.mp h
    cases hsplit
    refine ⟨List.takeWhile_append_dropWhile.symm, ?_, fun d hd => List.mem_takeWhile_imp hd⟩
    simp [hc]
  · cases h

theorem takes_of_number? {x : Except Stop (Datum × List Char)} (h : number? s = some x) :
    Takes 1 s x := by
  unfold number? at h
  split at h
  rename_i negative unsigned hsign
  have hunsigned : unsigned <:+ s := by
    split at hsign <;> cases hsign
    · exact List.suffix_cons '-' _
    · exact List.suffix_rfl
  obtain ⟨⟨digits, rest⟩, hwhole, hvalue⟩ := Option.bind_eq_some_iff.mp h
  obtain ⟨rfl, hne, hdigits⟩ := whole?_eq_some hwhole
  have hlength := List.length_pos_iff.mpr hne
  -- Fraction and exponent go on behind the digits, which are one character or more.
  have hend {end' : List Char} (hsuffix : end' <:+ rest) (d : Datum) :
      Takes 1 s (.ok (d, end')) := by
    refine ⟨(hsuffix.trans (List.suffix_append digits rest)).trans hunsigned, ?_⟩
    have hle := hunsigned.length_le
    have hle' := hsuffix.length_le
    rw [List.length_append] at hle
    omega
  have hpower := (exponent_suffix _).trans (fraction_suffix rest)
  dsimp only at hvalue
  split at hvalue
  · split at hvalue
    · next hlong =>
      cases hvalue
      exact ⟨hlong, digits, (List.prefix_append digits rest).isInfix.trans hunsigned.isInfix, rfl,
        hdigits⟩
    · cases hvalue
      exact hend hpower _
  · cases hvalue
    exact hend hpower _

theorem takes_scalar (s : List Char) : Takes 1 s (scalar s) := by
  have hwords : ∀ w ∈ words, w.1 ≠ [] := by simp [words]
  unfold scalar
  split
  · next found hfound =>
    obtain ⟨w, hw, hword⟩ := List.exists_of_findSome?_eq_some hfound
    obtain ⟨rest, hrest, rfl⟩ := Option.map_eq_some_iff.mp hword
    have hlength := List.length_pos_iff.mpr (hwords w hw)
    rw [eq_of_afterWord? hrest]
    refine ⟨List.suffix_append w.1 rest, ?_⟩
    rw [List.length_append]
    omega
  · split
    · next hnumber => exact takes_of_number? hnumber
    · trivial

/-! Values. What each reader takes is told by what the others take with one unit of fuel less. -/

section Steps
variable {fuel : Nat}

theorem takes_valueWithin_succ (hitems : ∀ s, Takes 1 s (itemsWithin fuel s))
    (hfields : ∀ fields s, Takes 1 s (fieldsWithin fuel fields s)) (s : List Char) :
    Takes 1 s (valueWithin (fuel + 1) s) := by
  unfold valueWithin
  split
  · next rest => exact (takes_string rest).map.behind List.suffix_rfl '"'
  · next rest =>
    split
    · next hclose => exact (Takes.done (suffix_of_skipSpace hclose)).behind List.suffix_rfl '['
    · exact (hitems _).map.behind (skipSpace_suffix rest) '['
  · next rest =>
    split
    · next hclose => exact (Takes.done (suffix_of_skipSpace hclose)).behind List.suffix_rfl '{'
    · exact (hfields [] _).map.behind (skipSpace_suffix rest) '{'
  · exact takes_scalar s

theorem takes_itemsWithin_succ (hvalue : ∀ s, Takes 1 s (valueWithin fuel s))
    (hitems : ∀ s, Takes 1 s (itemsWithin fuel s)) (s : List Char) :
    Takes 1 s (itemsWithin (fuel + 1) s) := by
  unfold itemsWithin
  refine (hvalue s).bind fun item rest _ => ?_
  dsimp only
  split
  · next hclose => exact .done (suffix_of_skipSpace hclose)
  · next more hcomma =>
    exact (hitems _).map.later ((skipSpace_suffix more).trans (suffix_of_skipSpace hcomma))
  · trivial

theorem takes_fieldsWithin_succ (hvalue : ∀ s, Takes 1 s (valueWithin fuel s))
    (hfields : ∀ fields s, Takes 1 s (fieldsWithin fuel fields s)) (fields : Record Datum)
    (s : List Char) : Takes 1 s (fieldsWithin (fuel + 1) fields s) := by
  unfold fieldsWithin
  split
  · next quoted =>
    refine Takes.behind (k := 0) ?_ List.suffix_rfl '"'
    refine (takes_string quoted).bind fun name rest _ => ?_
    dsimp only
    split
    · next more hcolon =>
      have hmore := (skipSpace_suffix more).trans (suffix_of_skipSpace hcolon)
      refine ((hvalue _).later hmore).bind fun value rest _ => ?_
      dsimp only
      split
      · next hclose => exact .done (suffix_of_skipSpace hclose)
      · next more hcomma =>
        exact (hfields _ _).later ((skipSpace_suffix more).trans (suffix_of_skipSpace hcomma))
      · trivial
    · trivial
  · trivial

end Steps

theorem takes_values (fuel : Nat) :
    (∀ s, Takes 1 s (valueWithin fuel s)) ∧ (∀ s, Takes 1 s (itemsWithin fuel s)) ∧
      ∀ fields s, Takes 1 s (fieldsWithin fuel fields s) := by
  induction fuel with
  | zero => exact ⟨fun _ => trivial, fun _ => trivial, fun _ _ => trivial⟩
  | succ fuel ih =>
    obtain ⟨hvalue, hitems, hfields⟩ := ih
    exact ⟨takes_valueWithin_succ hitems hfields, takes_itemsWithin_succ hvalue hitems,
      takes_fieldsWithin_succ hvalue hfields⟩

/-- An integer that stops the reading of a text stands in it. -/
theorem hasLongRun_of_parse {text : String} (h : parse text = .error (.digits count)) :
    HasLongRun count text.toList := by
  have hdocument : Takes 0 text.toList (document text.toList) := by
    unfold document documentWithin
    refine (((takes_values _).1 _).later (skipSpace_suffix _)).bind fun value rest _ => ?_
    dsimp only
    split
    · exact .done List.nil_suffix
    · trivial
  unfold parse at h
  dsimp only at h
  split at h
  · cases h
  · split at h <;> cases h
    next hstop =>
    rw [hstop] at hdocument
    exact hdocument

/-! Fuel. -/

theorem bind_congr_ok {x : Except Stop (α × List Char)} {f g : α × List Char → Except Stop β}
    (h : ∀ a rest, x = .ok (a, rest) → f (a, rest) = g (a, rest)) : x >>= f = x >>= g := by
  cases x with
  | error stop => rfl
  | ok p => exact h p.1 p.2 rfl

theorem length_skipSpace_le (s : List Char) : (skipSpace s).length ≤ s.length :=
  (skipSpace_suffix s).length_le

/-- Two amounts of fuel that give the same values, each of them enough. -/
structure Interchange (n m : Nat) : Prop where
  value : ∀ s : List Char, 2 * s.length < n → 2 * s.length < m → valueWithin n s = valueWithin m s
  items : ∀ s : List Char, 2 * s.length + 1 < n → 2 * s.length + 1 < m →
    itemsWithin n s = itemsWithin m s
  fields : ∀ fields (s : List Char), 2 * s.length + 1 < n → 2 * s.length + 1 < m →
    fieldsWithin n fields s = fieldsWithin m fields s

section Steps
variable {n m : Nat} (h : Interchange n m)
include h

theorem valueWithin_succ_eq (hn : 2 * s.length < n + 1) (hm : 2 * s.length < m + 1) :
    valueWithin (n + 1) s = valueWithin (m + 1) s := by
  unfold valueWithin
  split
  · rfl
  · next rest =>
    have hle := length_skipSpace_le rest
    rw [List.length_cons] at hn hm
    split
    · rfl
    · rw [h.items _ (by omega) (by omega)]
  · next rest =>
    have hle := length_skipSpace_le rest
    rw [List.length_cons] at hn hm
    split
    · rfl
    · rw [h.fields _ _ (by omega) (by omega)]
  · rfl

theorem itemsWithin_succ_eq (hn : 2 * s.length + 1 < n + 1) (hm : 2 * s.length + 1 < m + 1) :
    itemsWithin (n + 1) s = itemsWithin (m + 1) s := by
  unfold itemsWithin
  rw [h.value s (by omega) (by omega)]
  refine bind_congr_ok fun item rest hitem => ?_
  have hrest := ((takes_values m).1 s).length_le hitem
  have hle := length_skipSpace_le rest
  dsimp only
  split
  · rfl
  · next more hcomma =>
    rw [hcomma, List.length_cons] at hle
    have hmore := length_skipSpace_le more
    rw [h.items _ (by omega) (by omega)]
  · rfl

theorem fieldsWithin_succ_eq (fields : Record Datum) (hn : 2 * s.length + 1 < n + 1)
    (hm : 2 * s.length + 1 < m + 1) :
    fieldsWithin (n + 1) fields s = fieldsWithin (m + 1) fields s := by
  unfold fieldsWithin
  split
  · next quoted =>
    refine bind_congr_ok fun name rest hname => ?_
    have hrest := (takes_string quoted).length_le hname
    have hle := length_skipSpace_le rest
    rw [List.length_cons] at hn hm
    dsimp only
    split
    · next more hcolon =>
      rw [hcolon, List.length_cons] at hle
      have hmore := length_skipSpace_le more
      rw [h.value _ (by omega) (by omega)]
      refine bind_congr_ok fun value rest' hvalue => ?_
      have hrest' := ((takes_values m).1 _).length_le hvalue
      have hle' := length_skipSpace_le rest'
      dsimp only
      split
      · rfl
      · next more' hcomma =>
        rw [hcomma, List.length_cons] at hle'
        have hmore' := length_skipSpace_le more'
        exact h.fields _ _ (by omega) (by omega)
      · rfl
    · rfl
  · rfl

end Steps

theorem interchange (n m : Nat) : Interchange n m := by
  induction n generalizing m with
  | zero => exact ⟨nofun, nofun, nofun⟩
  | succ n ih =>
    cases m with
    | zero => exact ⟨nofun, nofun, nofun⟩
    | succ m =>
      exact ⟨fun s => valueWithin_succ_eq (ih m), fun s => itemsWithin_succ_eq (ih m),
        fun fields s => fieldsWithin_succ_eq (ih m) fields⟩

/-- The fuel of a document is enough: with any more of it the same value is read. -/
theorem documentWithin_eq (h : 2 * s.length < n) : documentWithin n s = document s := by
  have hle := length_skipSpace_le s
  unfold document documentWithin
  rw [(interchange n (2 * s.length + 1)).value _ (by omega) (by omega)]

end ChapterTex.Json
