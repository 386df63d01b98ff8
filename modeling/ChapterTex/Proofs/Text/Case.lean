import Mathlib.Data.Nat.Bitwise
import ChapterTex.Text.LowerCase

/-!
What holds of the case of every character. Upper case stands on its own: the characters of an upper
case are their own upper case, and no space comes up among them. Beyond ASCII no lower case is made
of ASCII letters alone, but for the Kelvin sign.
-/
namespace ChapterTex.Text
variable {c d : Char} {n : Nat} {image : List Char}

/-! The tables are compared as sets of code points, each of which is the bits of one number. -/

/-- The number whose bits are those at the given places. -/
def bits (places : List Nat) : Nat := places.foldr (fun n s => 2 ^ n ||| s) 0

theorem testBit_bits (places : List Nat) (n : Nat) :
    (bits places).testBit n = decide (n ∈ places) := by
  induction places with
  | nil => simp [bits]
  | cons m places ih =>
    have hcons : bits (m :: places) = 2 ^ m ||| bits places := rfl
    rw [hcons, Nat.testBit_or, Nat.testBit_two_pow, ih, ← Bool.decide_or, decide_eq_decide,
      List.mem_cons, eq_comm]

theorem not_mem_of_bits {places others : List Nat} (h : bits places &&& bits others = 0)
    (hn : n ∈ places) : n ∉ others := by
  intro hother
  have hbit : (bits places &&& bits others).testBit n = true := by
    rw [Nat.testBit_and, testBit_bits, testBit_bits, decide_eq_true hn, decide_eq_true hother]
    rfl
  rw [h, Nat.zero_testBit] at hbit
  cases hbit

namespace UpperRun
variable {r : UpperRun}

def letters (r : UpperRun) : List Nat :=
  (List.range ((r.last - r.first) / r.step + 1)).map fun k => r.first + k * r.step

theorem mem_letters_of_covers (h : r.covers n = true) : n ∈ r.letters := by
  simp only [covers, Bool.and_eq_true, decide_eq_true_eq, beq_iff_eq] at h
  obtain ⟨⟨hfirst, hlast⟩, hstep⟩ := h
  refine List.mem_map.mpr ⟨(n - r.first) / r.step, List.mem_range.mpr ?_, ?_⟩
  · exact Nat.lt_succ_of_le (Nat.div_le_div_right (by omega))
  · have hdiv := Nat.div_add_mod' (n - r.first) r.step
    omega

end UpperRun

def asciiRun : UpperRun := ⟨0x61, 0x7A, 1, 0x41⟩

/-- The characters that are not their own upper case. -/
def lowered : List Nat :=
  upperExpansions.map Prod.fst ++ (asciiRun :: upperRuns).flatMap UpperRun.letters

/-- The characters that stand in the upper case of another one. -/
def raised : List Nat :=
  upperExpansions.flatMap Prod.snd ++ (asciiRun :: upperRuns).flatMap fun r => r.letters.map r.apply

theorem mem_lowered_of_covers {r : UpperRun} (hr : r ∈ asciiRun :: upperRuns)
    (h : r.covers n = true) : n ∈ lowered :=
  List.mem_append_right _ (List.mem_flatMap.mpr ⟨r, hr, UpperRun.mem_letters_of_covers h⟩)

theorem mem_raised_of_covers {r : UpperRun} (hr : r ∈ asciiRun :: upperRuns)
    (h : r.covers n = true) : r.apply n ∈ raised :=
  List.mem_append_right _ (List.mem_flatMap.mpr
    ⟨r, hr, List.mem_map_of_mem (UpperRun.mem_letters_of_covers h)⟩)

/-- No character is raised and lowered. Zero stands for the code points of no character. -/
theorem not_mem_lowered_of_raised (h : n ∈ 0 :: raised) : n ∉ 32 :: lowered :=
  not_mem_of_bits (by decide +kernel) h

theorem toUpper_of_ascii (h : c.toNat < 128) : c.toUpper =
    if asciiRun.covers c.toNat then Char.ofNat (asciiRun.apply c.toNat) else c := by
  have hall : ∀ n < 128, (Char.ofNat n).toUpper =
      if asciiRun.covers n then Char.ofNat (asciiRun.apply n) else Char.ofNat n := by decide
  have hc := hall c.toNat h
  rwa [Char.ofNat_toNat] at hc

theorem expansion_ne_nil : ∀ e ∈ upperExpansions, e.2 ≠ [] := by decide

/-- A character is its own upper case, or it is lowered and its upper case is of raised ones. -/
theorem upper_cases (c : Char) : upper c = [c] ∨
    c.toNat ∈ lowered ∧ upper c ≠ [] ∧ ∀ d ∈ upper c, ∃ n ∈ raised, d = Char.ofNat n := by
  have hrun {r : UpperRun} (hr : r ∈ asciiRun :: upperRuns) (hcovers : r.covers c.toNat = true)
      (hupper : upper c = [Char.ofNat (r.apply c.toNat)]) :
      c.toNat ∈ lowered ∧ upper c ≠ [] ∧ ∀ d ∈ upper c, ∃ n ∈ raised, d = Char.ofNat n := by
    rw [hupper]
    refine ⟨mem_lowered_of_covers hr hcovers, by simp, fun d hd => ?_⟩
    exact ⟨_, mem_raised_of_covers hr hcovers, List.mem_singleton.mp hd⟩
  by_cases hascii : c.toNat < 128
  · have hupper : upper c = [c.toUpper] := by rw [upper, if_pos hascii]
    rw [toUpper_of_ascii hascii] at hupper
    by_cases hcovers : asciiRun.covers c.toNat = true
    · exact .inr (hrun List.mem_cons_self hcovers (by rw [hupper, if_pos hcovers]))
    · exact .inl (by rw [hupper, if_neg hcovers])
  · cases hlookup : upperExpansions.lookup c.toNat with
    | some image =>
      have hupper : upper c = image.map Char.ofNat := by
        simp only [upper, if_neg hascii, hlookup]
      obtain ⟨before, after, hsplit, -⟩ := List.lookup_eq_some_iff.mp hlookup
      have hmem : (c.toNat, image) ∈ upperExpansions := by rw [hsplit]; simp
      rw [hupper]
      refine .inr ⟨List.mem_append_left _ (List.mem_map_of_mem hmem), ?_, fun d hd => ?_⟩
      · exact fun hnil => expansion_ne_nil _ hmem (List.map_eq_nil_iff.mp hnil)
      · obtain ⟨n, hn, rfl⟩ := List.mem_map.mp hd
        exact ⟨n, List.mem_append_left _ (List.mem_flatMap.mpr ⟨_, hmem, hn⟩), rfl⟩
    | none =>
      cases hfind : upperRuns.find? fun r => r.covers c.toNat with
      | some r =>
        have hcovers : r.covers c.toNat = true :=
          List.find?_some (p := fun r => UpperRun.covers r c.toNat) hfind
        refine .inr (hrun (List.mem_cons_of_mem _ (List.mem_of_find?_eq_some hfind)) hcovers ?_)
        simp only [upper, if_neg hascii, hlookup, hfind]
      | none => exact .inl (by simp only [upper, if_neg hascii, hlookup, hfind])

theorem upper_ne_nil (c : Char) : upper c ≠ [] := by
  rcases upper_cases c with hsame | ⟨-, hne, -⟩
  · simp [hsame]
  · exact hne

/-- What is no code point is read as zero. -/
theorem toNat_ofNat_eq (n : Nat) : (Char.ofNat n).toNat = n ∨ (Char.ofNat n).toNat = 0 := by
  by_cases hvalid : n.isValidChar
  · rw [Char.ofNat, dif_pos hvalid]
    exact .inl rfl
  · rw [Char.ofNat, dif_neg hvalid]
    exact .inr rfl

theorem toNat_ofNat_mem (h : n ∈ raised) : (Char.ofNat n).toNat ∈ 0 :: raised := by
  rcases toNat_ofNat_eq n with hsame | hzero
  · exact List.mem_cons_of_mem 0 (hsame.symm ▸ h)
  · exact hzero ▸ List.mem_cons_self

/-- Upper case is final: what stands in an upper case is its own upper case. -/
theorem upper_of_mem_upper (h : d ∈ upper c) : upper d = [d] := by
  rcases upper_cases c with hsame | ⟨-, -, hraised⟩
  · rw [hsame, List.mem_singleton] at h
    rwa [h]
  · obtain ⟨n, hn, rfl⟩ := hraised d h
    have hkept := not_mem_lowered_of_raised (toNat_ofNat_mem hn)
    rcases upper_cases (Char.ofNat n) with hsame | ⟨hlowered, -⟩
    · exact hsame
    · exact absurd (List.mem_cons_of_mem 32 hlowered) hkept

theorem eq_space_of_mem_upper (h : ' ' ∈ upper c) : c = ' ' := by
  rcases upper_cases c with hsame | ⟨-, -, hraised⟩
  · rw [hsame, List.mem_singleton] at h
    exact h.symm
  · obtain ⟨n, hn, hspace⟩ := hraised ' ' h
    have hmem := toNat_ofNat_mem hn
    rw [← hspace] at hmem
    exact absurd List.mem_cons_self (not_mem_lowered_of_raised hmem)

/-! Lower case. -/

theorem lowerForms_of_ascii (h : c.toNat < 128) : lowerForms c = [[c.toLower]] := by
  rw [lowerForms, if_pos h]

theorem isLower_ofNat (h : 128 ≤ n) : (Char.ofNat n).isLower = false := by
  have hcode := toNat_ofNat_eq n
  rw [Bool.eq_false_iff]
  intro hlower
  obtain ⟨hge, hle⟩ := Bool.and_eq_true_iff.mp hlower
  have hge : 97 ≤ (Char.ofNat n).toNat := of_decide_eq_true hge
  have hle : (Char.ofNat n).toNat ≤ 122 := of_decide_eq_true hle
  omega

theorem lowerRuns_leave_ascii :
    ∀ r ∈ lowerRuns, 128 ≤ r.image ∨ r.first = r.last ∧ r.image = 'k'.toNat := by decide +kernel

/-- The lower case of a character beyond ASCII has a character which is no small letter of ASCII, or
it is the `k` of the Kelvin sign. -/
theorem exists_foreign_of_lowerForms (hc : 128 ≤ c.toNat) (h : image ∈ lowerForms c) :
    ∃ d ∈ image, d.isLower = true → d = 'k' := by
  have hforeign {n : Nat} (hn : 128 ≤ n) :
      ∃ d ∈ [Char.ofNat n], d.isLower = true → d = 'k' :=
    ⟨_, List.mem_cons_self, fun hlower => absurd hlower (by simp [isLower_ofNat hn])⟩
  rw [lowerForms, if_neg (by omega)] at h
  split at h
  · -- The dotted capital keeps its dot as a mark of its own.
    obtain rfl := List.mem_singleton.mp h
    exact ⟨'\u0307', by simp, by decide⟩
  · split at h
    · rcases List.mem_cons.mp h with rfl | h
      · exact ⟨_, List.mem_cons_self, by decide⟩
      · obtain rfl := List.mem_singleton.mp h
        exact ⟨_, List.mem_cons_self, by decide⟩
    · cases hfind : lowerRuns.find? fun r => r.covers c.toNat with
      | some r =>
        simp only [hfind, List.mem_singleton] at h
        subst h
        have hcovers : r.covers c.toNat = true :=
          List.find?_some (p := fun r => UpperRun.covers r c.toNat) hfind
        rcases lowerRuns_leave_ascii r (List.mem_of_find?_eq_some hfind) with
          himage | ⟨hsame, himage⟩
        · exact hforeign (Nat.le_add_right_of_le himage)
        · have happly : r.apply c.toNat = 'k'.toNat := by
            simp only [UpperRun.covers, Bool.and_eq_true, decide_eq_true_eq] at hcovers
            rw [UpperRun.apply, himage]
            omega
          exact ⟨_, List.mem_cons_self, fun _ => by rw [happly, Char.ofNat_toNat]⟩
      | none =>
        simp only [hfind, List.mem_singleton] at h
        subst h
        rw [← Char.ofNat_toNat c]
        exact hforeign hc

theorem exists_lowerCase (word : List Char) : ∃ form, LowerCase word form := by
  induction word with
  | nil => exact ⟨[], .nil⟩
  | cons c word ih =>
    obtain ⟨form, hform⟩ := ih
    have himage : ∃ image, image ∈ lowerForms c := by
      unfold lowerForms
      split_ifs
      · exact ⟨_, List.mem_cons_self⟩
      · exact ⟨_, List.mem_cons_self⟩
      · exact ⟨_, List.mem_cons_self⟩
      · split <;> exact ⟨_, List.mem_cons_self⟩
    obtain ⟨image, himage⟩ := himage
    exact ⟨image ++ form, .cons himage hform⟩

/-- A text of ASCII has one lower-case form. -/
theorem LowerCase.eq_map_toLower {word form : List Char} (h : LowerCase word form)
    (hascii : ∀ c ∈ word, c.toNat < 128) : form = word.map Char.toLower := by
  induction h with
  | nil => rfl
  | cons hc _ ih =>
    obtain ⟨hfirst, hrest⟩ := List.forall_mem_cons.mp hascii
    rw [lowerForms_of_ascii hfirst, List.mem_singleton] at hc
    rw [hc, ih hrest]
    rfl

theorem LowerCase.exists_foreign {word form : List Char} (h : LowerCase word form)
    (hbeyond : ∃ c ∈ word, 128 ≤ c.toNat) : ∃ d ∈ form, d.isLower = true → d = 'k' := by
  induction h with
  | nil => simp at hbeyond
  | cons hc _ ih =>
    obtain ⟨c, hmem, hge⟩ := hbeyond
    rcases List.mem_cons.mp hmem with rfl | hmem
    · obtain ⟨d, hd, hforeign⟩ := exists_foreign_of_lowerForms hge hc
      exact ⟨d, List.mem_append_left _ hd, hforeign⟩
    · obtain ⟨d, hd, hforeign⟩ := ih ⟨c, hmem, hge⟩
      exact ⟨d, List.mem_append_right _ hd, hforeign⟩

end ChapterTex.Text
