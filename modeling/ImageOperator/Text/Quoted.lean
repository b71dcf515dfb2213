import ImageOperator.Text.Printable
/-!
Quoted literals of texts and byte strings. A literal stands in single quotes unless the text holds a single
quote and no double quote; the quote in use, the backslash and whatever is not printable are escaped.
-/

set_option autoImplicit false

namespace ImageOperator.Text

def hexDigit (upper : Bool) (n : Nat) : Char :=
  if n < 10 then Char.ofNat (0x30 + n)
  else Char.ofNat ((if upper then 0x41 else 0x61) + (n - 10))

/-- The last `width` hexadecimal digits of a number. -/
def hexChars (upper : Bool) : Nat → Nat → List Char
  | 0, _ => []
  | width + 1, n => hexChars upper width (n / 16) ++ [hexDigit upper (n % 16)]

/-- The quote that a literal of these characters stands in. -/
def literalQuote (cs : List Char) : Char :=
  if cs.contains '\'' && !cs.contains '"' then '"' else '\''

/-- A character by its number: two, four or eight hexadecimal digits. -/
def numericEscape (c : Char) : List Char :=
  if c.toNat ≤ 0xFF then '\\' :: 'x' :: hexChars false 2 c.toNat
  else if c.toNat ≤ 0xFFFF then '\\' :: 'u' :: hexChars false 4 c.toNat
  else '\\' :: 'U' :: hexChars false 8 c.toNat

def literalChar (quote c : Char) : List Char :=
  if c = quote || c = '\\' then ['\\', c]
  else if c = '\t' then ['\\', 't']
  else if c = '\n' then ['\\', 'n']
  else if c = '\r' then ['\\', 'r']
  else if isPrintable c then [c]
  else numericEscape c

def literalChars (cs : List Char) : List Char :=
  let quote := literalQuote cs
  quote :: cs.flatMap (literalChar quote) ++ [quote]

/-- The literal of a text, as messages show it. -/
def literal (text : String) : String :=
  String.ofList (literalChars text.toList)

def byteChar (quote : Char) (byte : UInt8) : List Char :=
  let c := Char.ofNat byte.toNat
  if c = quote || c = '\\' then ['\\', c]
  else if c = '\t' then ['\\', 't']
  else if c = '\n' then ['\\', 'n']
  else if c = '\r' then ['\\', 'r']
  else if 0x20 ≤ byte.toNat && byte.toNat < 0x7F then [c]
  else numericEscape c

/-- The literal of a byte string: a `b` before the quotes, and every byte beyond ASCII escaped. -/
def byteLiteral (bytes : List UInt8) : String :=
  let quote := literalQuote (bytes.map fun byte => Char.ofNat byte.toNat)
  String.ofList ('b' :: quote :: bytes.flatMap (byteChar quote) ++ [quote])

end ImageOperator.Text
