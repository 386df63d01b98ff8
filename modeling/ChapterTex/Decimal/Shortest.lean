/-!
Shortest decimals. A finite binary number has the fewest digits that read back as the same number,
and of two such decimals with equally many digits the nearer one, of two equally near the even one.
-/
namespace ChapterTex

/-- The number `coefficient * 10 ^ exponent`. -/
structure Decimal where
  coefficient : Nat
  exponent : Int
deriving Repr, DecidableEq

namespace Decimal

/-- The positive number `mantissa * 2 ^ exponent`. Below a power of two the next smaller number is
nearer than the next larger one, which `narrow` records. -/
structure Binary where
  mantissa : Nat
  exponent : Int
  narrow : Bool
deriving Repr, DecidableEq

/-- Sign, and the magnitude of a finite float if it is not zero. -/
def Binary.ofFloat (x : Float) : Bool × Option Binary :=
  let bits := x.toBits.toNat
  let negative := bits / Nat.pow 2 63 == 1
  let exponent : Nat := bits / Nat.pow 2 52 % 2048
  let fraction := bits % Nat.pow 2 52
  let magnitude :=
    if exponent == 0 then if fraction == 0 then none else some ⟨fraction, -1074, false⟩
    else
      some ⟨fraction + Nat.pow 2 52, (exponent : Int) - 1075,
        fraction == 0 && decide (1 < exponent)⟩
  (negative, magnitude)

/-- Ten to the exponent if it is positive, otherwise one. -/
def tenUp (e : Int) : Nat := Nat.pow 10 e.toNat

/-- Two to the exponent if it is positive, otherwise one. -/
def twoUp (e : Int) : Nat := Nat.pow 2 e.toNat

/-- The quarter units of a binary number, as a numerator over a common denominator: the number
itself, and the ends of the interval of numbers that round to it. -/
structure Interval where
  value : Nat
  low : Nat
  high : Nat
  denominator : Nat
  closed : Bool

def Binary.interval (b : Binary) : Interval :=
  let unit := twoUp (b.exponent - 2)
  { value := 4 * b.mantissa * unit
    low := (4 * b.mantissa - (if b.narrow then 1 else 2)) * unit
    high := (4 * b.mantissa + 2) * unit
    denominator := twoUp (2 - b.exponent)
    closed := b.mantissa % 2 == 0 }

namespace Interval

/-- Whether `d * 10 ^ e` rounds to the number. -/
def admits (i : Interval) (d : Nat) (e : Int) : Bool :=
  let point := d * tenUp e * i.denominator
  let low := i.low * tenUp (-e)
  let high := i.high * tenUp (-e)
  if i.closed then decide (low ≤ point) && decide (point ≤ high)
  else decide (low < point) && decide (point < high)

/-- Whether the number is below `10 ^ e`. -/
def below (i : Interval) (e : Int) : Bool :=
  decide (i.value * tenUp (-e) < tenUp e * i.denominator)

/-- The least `e`, from the given one on, for which the number is below `10 ^ e`. -/
def magnitudeFrom (i : Interval) : Nat → Int → Int
  | 0, e => e
  | fuel + 1, e => if i.below e then e else i.magnitudeFrom fuel (e + 1)

/-- The number of places before the point, negative for leading zeros after it. -/
def magnitude (i : Interval) : Int :=
  let estimate := ((i.value.log2 : Int) - i.denominator.log2) * 30103 / 100000
  i.magnitudeFrom 4 (estimate - 1)

/-- Of the two neighbours on the grid of step `10 ^ e`, the one that rounds to the number. -/
def onGrid? (i : Interval) (e : Int) : Option Nat :=
  let numerator := i.value * tenUp (-e)
  let denominator := i.denominator * tenUp e
  let d := numerator / denominator
  let rest := 2 * (numerator % denominator)
  let nearer := if rest < denominator then d
    else if denominator < rest then d + 1
    else if d % 2 == 0 then d else d + 1
  let farther := if nearer == d then d + 1 else d
  if i.admits nearer e then some nearer
  else if i.admits farther e then some farther
  else none

/-- The first hit on ever finer grids. -/
def search (i : Interval) (magnitude : Int) : Nat → Nat → Decimal
  | 0, _ => ⟨0, 0⟩
  | fuel + 1, digits =>
    let e := magnitude - digits
    match i.onGrid? e with
    | some d => ⟨d, e⟩
    | none => i.search magnitude fuel (digits + 1)

end Interval

/-- Drops trailing zeros of the coefficient. -/
def trimZeros : Nat → Decimal → Decimal
  | 0, d => d
  | fuel + 1, d =>
    if d.coefficient != 0 && d.coefficient % 10 == 0 then
      trimZeros fuel ⟨d.coefficient / 10, d.exponent + 1⟩
    else d

/-- The shortest decimal that rounds to the binary number. Seventeen digits always do. -/
def shortest (b : Binary) : Decimal :=
  let i := b.interval
  trimZeros 20 (i.search i.magnitude 18 1)

/-- A finite decimal as the nearest float. Far outside the range of floats it is infinite or zero,
whatever its exponent. -/
def toFloat (d : Decimal) : Float :=
  let magnitude := d.exponent + (Nat.toDigits 10 d.coefficient).length
  if d.coefficient == 0 || decide (magnitude < -400) then 0
  else if decide (400 < magnitude) then 1 / 0
  else Float.ofScientific d.coefficient (decide (d.exponent < 0)) d.exponent.natAbs

end Decimal
end ChapterTex
