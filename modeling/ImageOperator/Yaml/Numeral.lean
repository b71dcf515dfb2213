import ImageOperator.Fault
import ImageOperator.Number.Binary64
import ImageOperator.Text.Blank
/-!
Spellings of numbers in documents. A plain scalar is a number when `isInteger` or `isFloat` recognises it; the values
are read more freely, since a scalar may also be tagged as a number. Both kinds know a base of sixty, with colons
between the digits.
-/

set_option autoImplicit false

namespace ImageOperator.Yaml.Numeral

def isDigitOrGap (c : Char) : Bool := c.isDigit || c = '_'

def isSign (c : Char) : Bool := c = '+' || c = '-'

def withoutSign : List Char → List Char
  | c :: rest => if isSign c then rest else c :: rest
  | [] => []

def digitValue? (c : Char) : Option Nat :=
  if c.isDigit then some (c.toNat - 0x30)
  else if 'a' ≤ c && c ≤ 'f' then some (c.toNat - 0x61 + 10)
  else if 'A' ≤ c && c ≤ 'F' then some (c.toNat - 0x41 + 10)
  else none

/-! ### Recognition -/

/-- What follows one or more sexagesimal digits, each after a colon. -/
def afterSexagesimals : List Char → Option (List Char)
  | ':' :: a :: b :: rest =>
    if a.isDigit && b.isDigit then
      if a ≤ '5' then (if rest.head? = some ':' then afterSexagesimals rest else some rest) else none
    else if a.isDigit then
      (if b = ':' then afterSexagesimals (b :: rest) else some (b :: rest))
    else none
  | [':', a] => if a.isDigit then some [] else none
  | _ => none

/-- The digits of an integer without its sign. -/
def isMagnitude : List Char → Bool
  | '0' :: 'b' :: rest => !rest.isEmpty && rest.all fun c => c = '0' || c = '1' || c = '_'
  | '0' :: 'x' :: rest => !rest.isEmpty && rest.all fun c => (digitValue? c).isSome || c = '_'
  | '0' :: rest => rest.all fun c => ('0' ≤ c && c ≤ '7') || c = '_'
  | c :: rest =>
    c.isDigit &&
      match rest.dropWhile isDigitOrGap with
      | [] => true
      | more => afterSexagesimals more = some []
  | [] => false

def isInteger (cs : List Char) : Bool :=
  isMagnitude (withoutSign cs)

/-- An exponent has a sign and at least one digit. -/
def isExponent : List Char → Bool
  | mark :: sign :: rest => (mark = 'e' || mark = 'E') && isSign sign && !rest.isEmpty && rest.all Char.isDigit
  | _ => false

/-- What may follow the point of a float. -/
def isFraction (cs : List Char) : Bool :=
  match cs.dropWhile isDigitOrGap with
  | [] => true
  | rest => isExponent rest

def isFloat (cs : List Char) : Bool :=
  match withoutSign cs with
  | '.' :: c :: rest =>
    (c.isDigit && cs.head? = some '.' && isFraction rest) ||
      [".inf", ".Inf", ".INF"].contains (String.ofList ('.' :: c :: rest)) ||
      [".nan", ".NaN", ".NAN"].contains (String.ofList cs)
  | c :: rest =>
    c.isDigit &&
      match rest.dropWhile isDigitOrGap with
      | '.' :: fraction => isFraction fraction
      | more =>
        match afterSexagesimals more with
        | some ('.' :: fraction) => fraction.all isDigitOrGap
        | _ => false
  | [] => false

/-! ### Values -/

def foldDigits (base : Nat) : Nat → List Char → Option Nat
  | value, [] => some value
  | value, c :: rest =>
    match digitValue? c with
    | some d => if d < base then foldDigits base (value * base + d) rest else none
    | none => none

/-- The most digits of a decimal integer. -/
def digitLimit : Nat := 4300

/-- At least one digit, and in base ten no more than the limit. -/
def natural? (base : Nat) (cs : List Char) : Option Nat :=
  if cs.isEmpty || (base = 10 && digitLimit < cs.length) then none else foldDigits base 0 cs

/-- The letter that announces a base. -/
def baseLetter : Nat → Option Char
  | 2 => some 'b'
  | 8 => some 'o'
  | 16 => some 'x'
  | _ => none

/-- The digits behind the announcement of a base, where there is one. -/
def withoutBase (base : Nat) : List Char → List Char
  | '0' :: c :: rest => if some c.toLower = baseLetter base then rest else '0' :: c :: rest
  | cs => cs

/-- An integer in a base, blanks around it and a sign allowed. -/
def integerIn? (base : Nat) (cs : List Char) : Option Int :=
  let trimmed := Text.trimChars cs
  (natural? base (withoutBase base (withoutSign trimmed))).map fun n =>
    if trimmed.head? = some '-' then -(n : Int) else n

/-- The parts between colons. -/
def parts : List Char → List (List Char)
  | [] => [[]]
  | ':' :: rest => [] :: parts rest
  | c :: rest =>
    match parts rest with
    | [] => [[c]]
    | part :: more => (c :: part) :: more

/-- The integer of a scalar. The sign goes before everything else, also before the announcement of a base; a leading
zero announces base eight. -/
def integer (cs : List Char) : Except Fault Int :=
  let spelled := cs.filter (· ≠ '_')
  let magnitude := withoutSign spelled
  let read : Option Int :=
    match magnitude with
    | '0' :: 'b' :: rest => integerIn? 2 rest
    | '0' :: 'x' :: rest => integerIn? 16 rest
    | '0' :: _ => integerIn? 8 magnitude
    | _ =>
      if magnitude.contains ':' then
        ((parts magnitude).mapM (integerIn? 10)).map fun digits => digits.foldl (fun value d => value * 60 + d) 0
      else integerIn? 10 magnitude
  if magnitude.isEmpty then .error (.indexOutside "string")
  else
    match read with
    | some value => .ok (if spelled.head? = some '-' then -value else value)
    | none => .error .scalarInvalid

/-- An exponent with or without sign; none at all counts as zero. -/
def exponent? : List Char → Option Int
  | [] => some 0
  | 'e' :: rest =>
    if (withoutSign rest).isEmpty then none
    else
      (foldDigits 10 0 (withoutSign rest)).map fun n => if rest.head? = some '-' then -(n : Int) else n
  | _ => none

/-- Digits with or without a point among them, then an exponent. -/
def decimal? (negative : Bool) (cs : List Char) : Option Binary64 :=
  let whole := cs.takeWhile Char.isDigit
  let (fraction, rest) :=
    match cs.dropWhile Char.isDigit with
    | '.' :: more => (more.takeWhile Char.isDigit, more.dropWhile Char.isDigit)
    | more => ([], more)
  if whole.isEmpty && fraction.isEmpty then none
  else do
    let digits ← foldDigits 10 0 (whole ++ fraction)
    let exponent ← exponent? rest
    return Binary64.ofDecimal negative digits (exponent - fraction.length)

/-- A float in lower case, blanks around it and a sign allowed. -/
def binary? (cs : List Char) : Option Binary64 :=
  let trimmed := Text.trimChars cs
  let negative := trimmed.head? = some '-'
  let magnitude := withoutSign trimmed
  match String.ofList magnitude with
  | "inf" | "infinity" => some (.infinite negative)
  | "nan" => some .nan
  | _ => decimal? negative magnitude

/-- The sum of sexagesimal digits, the last one first, each at its own base. -/
def sexagesimalSum : Nat → Binary64 → List Binary64 → Binary64
  | _, sum, [] => sum
  | base, sum, d :: rest => sexagesimalSum (base * 60) (sum.add (d.mul (Binary64.ofInt base))) rest

/-- The float of a scalar. -/
def float (cs : List Char) : Except Fault Binary64 :=
  let spelled := (cs.filter (· ≠ '_')).map Char.toLower
  let magnitude := withoutSign spelled
  let read : Option Binary64 :=
    if magnitude = ".inf".toList then some (.infinite false)
    else if magnitude = ".nan".toList then some .nan
    else if magnitude.contains ':' then
      ((parts magnitude).mapM binary?).map fun digits => sexagesimalSum 1 .zero digits.reverse
    else binary? magnitude
  if spelled.isEmpty then .error (.indexOutside "string")
  else
    match read with
    | some value => .ok (if spelled.head? = some '-' then value.negate else value)
    | none => .error .scalarInvalid

end ImageOperator.Yaml.Numeral
