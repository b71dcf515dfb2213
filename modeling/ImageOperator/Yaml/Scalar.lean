import ImageOperator.Disk.Format
import ImageOperator.Text.Base64
import ImageOperator.Text.Case
import ImageOperator.Yaml.Tag
/-!
Values of scalars by their tags. A text that its tag does not allow is a fault of its own; binary data that cannot be
decoded and tags that no scalar has make the document malformed.
-/

set_option autoImplicit false

namespace ImageOperator.Yaml.Scalar

/-- The words for truth values, in any case of letters. -/
def bool (text : String) : Except Fault Value :=
  let word := Text.lower text
  if ["yes", "true", "on"].contains word then .ok (.bool true)
  else if ["no", "false", "off"].contains word then .ok (.bool false)
  else .error (.keyAbsent word)

def binary (text : String) : Except ReadFault Value :=
  let cs := text.toList
  if cs.all fun c => c.toNat < 0x80 then
    match Text.Base64.decode cs with
    | some bytes => .ok (.bytes bytes)
    | none => .error .malformed
  else .error .malformed

/-- A text without date has nothing that a date could be taken from. -/
def timestamp (text : String) : Except Fault Value :=
  match Moment.ofChars? (Tag.withoutFinalBreak text.toList) with
  | some moment => moment.value
  | none => .error .attribute

def value (tag : Tag) (text : String) : Except ReadFault Value :=
  match tag with
  | .null => .ok .null
  | .text => .ok (.text text)
  | .bool => (bool text).mapError .scalar
  | .int => ((Numeral.integer text.toList).map Value.int).mapError .scalar
  | .float => ((Numeral.float text.toList).map Value.float).mapError .scalar
  | .timestamp => (timestamp text).mapError .scalar
  | .binary => binary text
  | .sequence | .mapping | .set | .ordered | .pairs | .tuple | .merge | .scalarOf | .other => .error .malformed

end ImageOperator.Yaml.Scalar
