/-!
Binary floating point numbers of 64 bits as exact values. A finite number is a dyadic rational, kept apart from the
negative zero; `ofRatio` rounds any ratio to the nearest number, ties to the even significand, and everything else
that rounds is defined through it.
-/

set_option autoImplicit false

namespace ImageOperator

inductive Binary64
  | finite (value : Dyadic)
  | negativeZero
  | infinite (negative : Bool)
  | nan
deriving DecidableEq

namespace Binary64

def zero : Binary64 := .finite .zero

instance : Inhabited Binary64 := ⟨zero⟩

/-- The quotient of two naturals rounded to the nearest integer, a tie to the even one. -/
def roundQuotient (numerator denominator : Nat) : Nat :=
  let quotient := numerator / denominator
  let twice := 2 * (numerator % denominator)
  if twice > denominator || (twice = denominator && quotient % 2 = 1) then quotient + 1 else quotient

/-- Numerator and denominator of `numerator / denominator / 2 ^ exponent`. -/
def shiftRatio (numerator denominator : Nat) (exponent : Int) : Nat × Nat :=
  if exponent < 0 then (numerator * Nat.pow 2 (-exponent).toNat, denominator)
  else (numerator, denominator * Nat.pow 2 exponent.toNat)

/-- The exponent of the last place of the numbers around a positive ratio. -/
def lastPlace (numerator denominator : Nat) : Int :=
  let guess := max ((Nat.log2 numerator : Int) - Nat.log2 denominator - 53) (-1074)
  let (scaled, unit) := shiftRatio numerator denominator guess
  if Nat.pow 2 53 ≤ scaled / unit then guess + 1 else guess

/-- The number of magnitude `significand * 2 ^ exponent`, or infinity beyond the largest number. -/
def ofSignificand (negative : Bool) (significand : Nat) (exponent : Int) : Binary64 :=
  if significand = 0 then
    if negative then .negativeZero else zero
  else if 1024 ≤ (Nat.log2 significand : Int) + exponent then .infinite negative
  else .finite (Dyadic.ofIntWithPrec (if negative then -significand else significand) (-exponent))

/-- The number nearest to a ratio of naturals. -/
def ofRatio (negative : Bool) (numerator denominator : Nat) : Binary64 :=
  if numerator = 0 || denominator = 0 then
    if negative then .negativeZero else zero
  else
    let exponent := lastPlace numerator denominator
    let (scaled, unit) := shiftRatio numerator denominator exponent
    ofSignificand negative (roundQuotient scaled unit) exponent

def ofInt (value : Int) : Binary64 :=
  ofRatio (value < 0) value.natAbs 1

/-- The number nearest to a dyadic rational; a zero is positive. -/
def ofDyadic : Dyadic → Binary64
  | .zero => zero
  | .ofOdd n k _ =>
    let (numerator, denominator) := shiftRatio n.natAbs 1 k
    ofRatio (n < 0) numerator denominator

/-- The number nearest to `digits * 10 ^ exponent`. Exponents far outside the range are decided without computing
the power. -/
def ofDecimal (negative : Bool) (digits : Nat) (exponent : Int) : Binary64 :=
  if digits = 0 then
    if negative then .negativeZero else zero
  else
    let lead : Int := Nat.log2 digits
    if 1100 < exponent then .infinite negative
    else if lead + 4 * exponent < -8000 && exponent < 0 && lead < -exponent then
      if negative then .negativeZero else zero
    else if exponent < 0 then ofRatio negative digits (Nat.pow 10 (-exponent).toNat)
    else ofRatio negative (digits * Nat.pow 10 exponent.toNat) 1

def negate : Binary64 → Binary64
  | .finite .zero => .negativeZero
  | .finite value => .finite (-value)
  | .negativeZero => zero
  | .infinite negative => .infinite !negative
  | .nan => .nan

/-- The exact value, when there is one. -/
def dyadic? : Binary64 → Option Dyadic
  | .finite value => some value
  | .negativeZero => some .zero
  | .infinite _ | .nan => none

/-- A sum rounded to the nearest number; only finite operands and positive infinity occur. -/
def add (x y : Binary64) : Binary64 :=
  match x.dyadic?, y.dyadic? with
  | some a, some b => ofDyadic (a + b)
  | none, _ => x
  | _, none => y

/-- A product rounded to the nearest number; an operand without exact value decides the result. -/
def mul (x y : Binary64) : Binary64 :=
  match x.dyadic?, y.dyadic? with
  | some a, some b => ofDyadic (a * b)
  | none, some b => if b = .zero then .nan else x
  | some a, none => if a = .zero then .nan else y
  | none, none => x

def isZero : Binary64 → Bool
  | .finite .zero | .negativeZero => true
  | _ => false

end Binary64

end ImageOperator
