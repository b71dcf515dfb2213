import ImageOperator.Number.Notation
import ImageOperator.Text.Quoted
import ImageOperator.Value.Basic
/-!
Texts of values. A literal shows the value with its kind: texts quoted, collections in their brackets. The plain text
differs for texts, which stand for themselves, and for dates and timestamps.
-/

set_option autoImplicit false

namespace ImageOperator.Value

def boolText (b : Bool) : String :=
  if b then "True" else "False"

def listed (items : List String) : String :=
  String.intercalate ", " items

/-- A single item in parentheses keeps a comma. -/
def tupleText : List String → String
  | [item] => "(" ++ item ++ ",)"
  | items => "(" ++ listed items ++ ")"

def setText : List String → String
  | [] => "set()"
  | items => "\x7b" ++ listed items ++ "\x7d"

mutual

def literal : Value → String
  | .null => "None"
  | .bool b => boolText b
  | .int i => toString i
  | .float x => x.text
  | .text s => Text.literal s
  | .bytes data => Text.byteLiteral data
  | .date d => d.literal
  | .timestamp t => t.literal
  | .sequence items => "[" ++ listed (literals items) ++ "]"
  | .tuple items => tupleText (literals items)
  | .mapping entries => "\x7b" ++ listed (entryLiterals entries) ++ "\x7d"
  | .set members => setText (literals members)

def literals : List Value → List String
  | [] => []
  | value :: rest => literal value :: literals rest

def entryLiterals : List (Value × Value) → List String
  | [] => []
  | (name, value) :: rest => (literal name ++ ": " ++ literal value) :: entryLiterals rest

end

/-- The text that stands for a value inside another text. -/
def plain : Value → String
  | .text s => s
  | .date d => d.iso
  | .timestamp t => t.isoWith " "
  | value => value.literal

end ImageOperator.Value
