import ChapterTex.Datum.Basic
import ChapterTex.Decimal.Shortest
import ChapterTex.Text.Quoted

/-!
The text of a value. A text stands for itself at the top and is quoted inside another value; all
other values are written the same way in both places.
-/
namespace ChapterTex

namespace Decimal

/-- The written form of a nonzero decimal: positional from `0.0001` to below ten to the sixteenth,
and otherwise with one digit before the point and an exponent of at least two digits. -/
def layout (d : Decimal) : String :=
  let digits := Nat.toDigits 10 d.coefficient
  let count := digits.length
  let point : Int := count + d.exponent
  if decide (-4 < point) && decide (point ≤ 16) then
    if point ≤ 0 then String.ofList ("0.".toList ++ List.replicate (-point).toNat '0' ++ digits)
    else if (count : Int) ≤ point then
      String.ofList (digits ++ List.replicate d.exponent.toNat '0' ++ ".0".toList)
    else
      String.ofList (digits.take point.toNat ++ '.' :: digits.drop point.toNat)
  else
    let exponent := point - 1
    let places := Nat.toDigits 10 exponent.natAbs
    let fraction := digits.drop 1
    String.ofList (digits.take 1 ++ (if fraction.isEmpty then [] else '.' :: fraction)
      ++ ['e', if exponent < 0 then '-' else '+']
      ++ (if places.length < 2 then '0' :: places else places))

end Decimal

namespace Datum

/-- The shortest text that reads back as the float. -/
def floatText (x : Float) : String :=
  if x.isNaN then "nan"
  else if x.isInf then if x < 0 then "-inf" else "inf"
  else
    match Decimal.Binary.ofFloat x with
    | (negative, magnitude) =>
      let sign := if negative then "-" else ""
      match magnitude with
      | none => sign ++ "0.0"
      | some b => sign ++ (Decimal.shortest b).layout

def quoteText (s : String) : String := String.ofList (Text.quote s.toList)

mutual

def inner : Datum → String
  | null => "None"
  | bool b => if b then "True" else "False"
  | int n => toString n
  | float x => floatText x
  | text s => quoteText s
  | latex s => "Latex(" ++ quoteText s ++ ")"
  | list items => "[" ++ innerItems items ++ "]"
  | tuple items => "(" ++ innerItems items ++ (if items.length == 1 then ",)" else ")")
  | dict fields => "\x7b" ++ innerFields fields ++ "\x7d"

def innerItems : List Datum → String
  | [] => ""
  | [d] => inner d
  | d :: rest => inner d ++ ", " ++ innerItems rest

def innerFields : List (String × Datum) → String
  | [] => ""
  | [(n, d)] => quoteText n ++ ": " ++ inner d
  | (n, d) :: rest => quoteText n ++ ": " ++ inner d ++ ", " ++ innerFields rest

end

/-- The text of a value. It is total: an integer of more than 4300 digits, which cannot be written
(see `Json.maxDigits`), comes from neither front end. -/
def display (d : Datum) : String :=
  match d with
  | text s | latex s => s
  | other => other.inner

@[simp] theorem display_text (s : String) : (text s).display = s := rfl

@[simp] theorem display_latex (s : String) : (latex s).display = s := rfl

theorem display_eq_of_text? {d : Datum} {s : String} (h : d.text? = some s) : d.display = s := by
  rcases text?_eq_some_iff.mp h with rfl | rfl
  · exact display_text s
  · exact display_latex s

end Datum
end ChapterTex
