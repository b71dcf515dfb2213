/-!
Lower case as far as it can meet ASCII text: the letters whose lower case begins with an ASCII letter are mapped,
every other character is kept. A text in lower case therefore has the same ASCII beginnings as under the full
Unicode mapping, where the remaining letters go to letters outside ASCII.
-/

set_option autoImplicit false

namespace ImageOperator.Text

/-- The Kelvin sign becomes `k`, the dotted capital `I` an `i` with a combining dot. -/
def lowerChar (c : Char) : List Char :=
  if c.toNat = 0x212A then ['k']
  else if c.toNat = 0x130 then ['i', '\u0307']
  else [c.toLower]

def lowerChars (cs : List Char) : List Char :=
  cs.flatMap lowerChar

def lower (text : String) : String :=
  String.ofList (lowerChars text.toList)

end ImageOperator.Text
