import ImageOperator.Number.Binary64
/-!
The shortest decimal that reads back as a given binary number. Every real that rounds to the number lies between
the midpoints to its two neighbours, the midpoints included when the significand is even. For one, two, … digits
the two decimals next to the number are tried; the first hit wins, and of two hits the nearer one.
-/

set_option autoImplicit false

namespace ImageOperator

/-- The number `digits * 10 ^ exponent`. -/
structure Decimal where
  digits : Nat
  exponent : Int
deriving DecidableEq, Inhabited

namespace Decimal

/-- A positive number with the ends of the interval of reals that round to it, over one denominator. -/
structure Cell where
  lower : Nat
  value : Nat
  upper : Nat
  unit : Nat
  inclusive : Bool

/-- The cell of `odd / 2 ^ precision`. -/
def Cell.of (odd : Nat) (precision : Int) : Cell :=
  let lead : Int := Nat.log2 odd - precision
  let place : Int := max (lead - 52) (-1074)
  let significand := odd * Nat.pow 2 (-precision - place).toNat
  let below := if significand = Nat.pow 2 52 && -1074 < place then 1 else 2
  let quarter := place - 2
  let up := Nat.pow 2 quarter.toNat
  { lower := (4 * significand - below) * up
    value := 4 * significand * up
    upper := (4 * significand + 2) * up
    unit := Nat.pow 2 (-quarter).toNat
    inclusive := significand % 2 = 0 }

/-- The greatest power of ten that is at most `odd / 2 ^ precision`. -/
def leadingPower (odd : Nat) (precision : Int) (cell : Cell) : Int :=
  let guess := ((Nat.log2 odd : Int) - precision) * 30103 / 100000
  let next := guess + 1
  if cell.unit * Nat.pow 10 next.toNat ≤ cell.value * Nat.pow 10 (-next).toNat then next else guess

/-- The better of the two decimals with last place `10 ^ place` around the value, if one lies in the cell. -/
def Cell.nearest? (cell : Cell) (place : Int) : Option Nat :=
  let up := Nat.pow 10 (-place).toNat
  let unit := cell.unit * Nat.pow 10 place.toNat
  let value := cell.value * up
  let floor := value / unit
  let reads (digits : Nat) : Bool :=
    if cell.inclusive then cell.lower * up ≤ digits * unit && digits * unit ≤ cell.upper * up
    else cell.lower * up < digits * unit && digits * unit < cell.upper * up
  let below := value - floor * unit
  let above := (floor + 1) * unit - value
  match reads floor, reads (floor + 1) with
  | true, true =>
    if below < above || (below = above && floor % 2 = 0) then some floor else some (floor + 1)
  | true, false => some floor
  | false, true => some (floor + 1)
  | false, false => none

/-- Moves trailing zeros of the digits into the exponent. -/
def trimZeros : Nat → Decimal → Decimal
  | 0, d => d
  | fuel + 1, d =>
    if d.digits ≠ 0 && d.digits % 10 = 0 then trimZeros fuel ⟨d.digits / 10, d.exponent + 1⟩ else d

/-- The shortest decimal that rounds to `odd / 2 ^ precision`. Seventeen digits always suffice. -/
def shortest (odd : Nat) (precision : Int) : Decimal :=
  let cell := Cell.of odd precision
  let lead := leadingPower odd precision cell
  let hit := (List.range 17).findSome? fun n : Nat =>
    (cell.nearest? (lead - n)).map fun digits => trimZeros 20 ⟨digits, lead - n⟩
  hit.getD ⟨0, 0⟩

end Decimal

end ImageOperator
