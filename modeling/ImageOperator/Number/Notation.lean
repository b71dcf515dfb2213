import ImageOperator.Number.Shortest
/-!
Texts of numbers. A binary number is written with its shortest digits: in positional notation while its leading
digit stands between the fourth place after the point and the sixteenth before it, else with an exponent of at
least two digits. A text without exponent always has a point.
-/

set_option autoImplicit false

namespace ImageOperator

namespace Decimal

def digitChars (d : Decimal) : List Char :=
  (toString d.digits).toList

def zeros (count : Nat) : List Char :=
  List.replicate count '0'

/-- The exponent of the leading digit. -/
def leadingExponent (d : Decimal) : Int :=
  d.exponent + d.digitChars.length - 1

def positional (d : Decimal) : List Char :=
  let digits := d.digitChars
  let lead := d.leadingExponent
  if 0 ≤ d.exponent then digits ++ zeros d.exponent.toNat ++ ['.', '0']
  else if 0 ≤ lead then
    digits.take (lead.toNat + 1) ++ '.' :: digits.drop (lead.toNat + 1)
  else '0' :: '.' :: zeros (-lead - 1).toNat ++ digits

def exponential (d : Decimal) : List Char :=
  let lead := d.leadingExponent
  let exponent := (toString lead.natAbs).toList
  let mark := 'e' :: (if lead < 0 then '-' else '+') :: zeros (2 - exponent.length) ++ exponent
  match d.digitChars with
  | [] => mark
  | [digit] => digit :: mark
  | digit :: rest => digit :: '.' :: rest ++ mark

def chars (d : Decimal) : List Char :=
  if -4 ≤ d.leadingExponent && d.leadingExponent < 16 then d.positional else d.exponential

end Decimal

namespace Binary64

def text : Binary64 → String
  | .finite .zero => "0.0"
  | .finite (.ofOdd n k _) =>
    let digits := (Decimal.shortest n.natAbs k).chars
    String.ofList (if n < 0 then '-' :: digits else digits)
  | .negativeZero => "-0.0"
  | .infinite negative => if negative then "-inf" else "inf"
  | .nan => "nan"

end Binary64

end ImageOperator
