import ImageOperator.Disk.Format
import ImageOperator.Yaml.Grammar
import ImageOperator.Yaml.Meaning
import ImageOperator.Yaml.Printer
/-!
YAML as the format of documents. A value is written as the document of its node; a text without document reads as
null.
-/

set_option autoImplicit false

namespace ImageOperator.Yaml

def write (value : Value) : String :=
  Printer.document (Node.ofValue value)

def read (text : String) : Except ReadFault Value := do
  match ← Node.ofText text with
  | none => return .null
  | some root => root.value

def format : Format := ⟨write, read⟩

end ImageOperator.Yaml
