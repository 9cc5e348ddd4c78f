/-! The fewest decimal digits that read back as a given double. A finite positive double is
`mantissa * 2 ^ exponent`; the reals that round to it form an interval whose ends belong to it
exactly when the mantissa is even. Grids of powers of ten are tried from coarse to fine, and the
first that meets the interval gives the digits. -/

namespace Dashboard.Decimal

/-- The magnitude `mantissa * 2 ^ exponent` of a finite double, together with whether the next
double below it is only half a step away. -/
structure Magnitude where
  mantissa : Nat
  exponent : Int
  narrowBelow : Bool
deriving DecidableEq, Repr

/-- What the 64 bits of a double stand for. -/
inductive Binary64 where
  | notANumber
  | infinite (negative : Bool)
  | finite (negative : Bool) (magnitude : Magnitude)
deriving DecidableEq, Repr

def Binary64.ofBits (bits : UInt64) : Binary64 :=
  let negative := bits >>> 63 == 1
  let biased := ((bits >>> 52) &&& 0x7ff).toNat
  let fraction := (bits &&& 0xfffffffffffff).toNat
  if biased = 2047 then if fraction = 0 then .infinite negative else .notANumber
  else if biased = 0 then .finite negative ⟨fraction, -1074, false⟩
  else .finite negative ⟨fraction + 0x10000000000000, (biased : Int) - 1075, fraction = 0 && biased > 1⟩

def Binary64.ofFloat (number : Float) : Binary64 := .ofBits number.toBits

/-- A positive number `coefficient * 10 ^ exponent`. -/
structure Scientific where
  coefficient : Nat
  exponent : Int
deriving DecidableEq, Repr

/-- Which of two equally near neighbours is taken. -/
inductive Tie where
  | even
  | up
deriving DecidableEq, Repr

namespace Magnitude

/-- Four times the mantissa and the distances to both ends of the interval, in quarters of a
unit of the mantissa. -/
def quarters (value : Magnitude) : Nat × Nat × Nat :=
  (4 * value.mantissa - (if value.narrowBelow then 1 else 2), 4 * value.mantissa,
    4 * value.mantissa + 2)

/-- The numerator factor and the denominator that turn quarters into units of `10 ^ grid`. -/
def scale (value : Magnitude) (grid : Int) : Nat × Nat :=
  (Nat.pow 10 (-grid).toNat <<< (value.exponent - 2).toNat,
    Nat.pow 10 grid.toNat <<< (2 - value.exponent).toNat)

/-- Whether `point * 10 ^ grid` reads back as the value. -/
def readsBack (value : Magnitude) (grid : Int) (point : Nat) : Bool :=
  let (low, _, high) := value.quarters
  let (factor, denominator) := value.scale grid
  if value.mantissa % 2 = 0 then
    low * factor ≤ point * denominator && point * denominator ≤ high * factor
  else low * factor < point * denominator && point * denominator < high * factor

/-- The point of the grid nearest to the value among those that read back. -/
def nearestOnGrid (value : Magnitude) (tie : Tie) (grid : Int) : Option Nat :=
  let (_, middle, _) := value.quarters
  let (factor, denominator) := value.scale grid
  let below := middle * factor / denominator
  let twiceRest := 2 * (middle * factor % denominator)
  match value.readsBack grid below, value.readsBack grid (below + 1) with
  | false, false => none
  | true, false => some below
  | false, true => some (below + 1)
  | true, true =>
    if twiceRest < denominator then some below
    else if twiceRest > denominator then some (below + 1)
    else match tie with
      | .up => some (below + 1)
      | .even => some (if below % 2 = 0 then below else below + 1)

/-- The first grid at or below `10 ^ grid`, among `tries` of them, that has a point which reads
back. -/
def firstGrid (value : Magnitude) (tie : Tie) : Nat → Int → Scientific
  | 0, grid => ⟨0, grid⟩
  | tries + 1, grid =>
    match value.nearestOnGrid tie grid with
    | some point => ⟨point, grid⟩
    | none => firstGrid value tie tries (grid - 1)

/-- The shortest decimal that reads back as the value, which is not zero. The value is below
`10 ^ (bits * 30103 / 100000 + 1)`, so the search starts above it, and 17 digits always suffice. -/
def shortest (value : Magnitude) (tie : Tie) : Scientific :=
  let bits := (value.mantissa.log2 : Int) + 1 + value.exponent
  value.firstGrid tie 22 (Int.fdiv (bits * 30103) 100000 + 2)

end Magnitude
end Dashboard.Decimal
