import ImageOperator.Fault
import ImageOperator.Value.Literal
/-!
Reading of records from mappings. A text field takes the plain text of whatever it is given, a truth field the truth
of it; a field of a list of texts takes the plain texts of the items, the characters of a text or the names of a
mapping.
-/

set_option autoImplicit false

namespace ImageOperator.Record

/-- The entries of a value that a record is read from. -/
def entries (owner : String) (value : Value) : Except Fault Entries :=
  match value with
  | .mapping entries => .ok entries
  | _ => .error (.notRecord owner)

/-- A text field that has to be there. -/
def text (entries : Entries) (owner field key : String) : Except Fault String :=
  match entries.get? key with
  | some value => .ok value.plain
  | none => .error (.fieldAbsent owner field "str")

def textOr (entries : Entries) (key absent : String) : String :=
  ((entries.get? key).map Value.plain).getD absent

def truthOr (entries : Entries) (key : String) (absent : Bool) : Bool :=
  ((entries.get? key).map Value.isTrue).getD absent

/-- What going through a value one by one yields, for the values that allow it. -/
def items? : Value → Option (List Value)
  | .text s => some (s.toList.map fun c => .text (String.singleton c))
  | .bytes data => some (data.map fun byte => .int byte.toNat)
  | .sequence items | .tuple items | .set items => some items
  | .mapping entries => some (entries.map (·.1))
  | _ => none

end ImageOperator.Record
