import ImageOperator.Text.Base64
import ImageOperator.Yaml.Tag
/-!
Nodes: documents before their scalars have a meaning. Every value has a node; its scalars carry the text that the
value is written with.
-/

set_option autoImplicit false

namespace ImageOperator.Yaml

inductive Node
  | scalar (tag : Tag) (text : String)
  | sequence (tag : Tag) (items : List Node)
  | mapping (tag : Tag) (entries : List (Node × Node))
deriving Inhabited

/-- Floats are written with a point and with marked names for what is not a number. -/
def floatText : Binary64 → String
  | .infinite negative => if negative then "-.inf" else ".inf"
  | .nan => ".nan"
  | value =>
    let cs := value.text.toList
    if cs.contains '.' then String.ofList cs
    else
      String.ofList (cs.takeWhile (· ≠ 'e') ++ (if cs.contains 'e' then ['.', '0'] else []) ++ cs.dropWhile (· ≠ 'e'))

namespace Node

def tag : Node → Tag
  | .scalar tag _ | .sequence tag _ | .mapping tag _ => tag

mutual

/-- One more than the greatest height of a child. -/
def height : Node → Nat
  | .scalar _ _ => 1
  | .sequence _ items => itemsHeight items + 1
  | .mapping _ entries => entriesHeight entries + 1

def itemsHeight : List Node → Nat
  | [] => 0
  | item :: rest => max (height item) (itemsHeight rest)

def entriesHeight : List (Node × Node) → Nat
  | [] => 0
  | (name, value) :: rest => max (max (height name) (height value)) (entriesHeight rest)

end

mutual

def ofValue : Value → Node
  | .null => .scalar .null "null"
  | .bool b => .scalar .bool (if b then "true" else "false")
  | .int i => .scalar .int (toString i)
  | .float x => .scalar .float (floatText x)
  | .text s => .scalar .text s
  | .bytes data => .scalar .binary (String.ofList (Text.Base64.encode data))
  | .date d => .scalar .timestamp d.iso
  | .timestamp t => .scalar .timestamp (t.isoWith " ")
  | .sequence items => .sequence .sequence (ofValues items)
  | .tuple items => .sequence .tuple (ofValues items)
  | .mapping entries => .mapping .mapping (ofEntries entries)
  | .set members => .mapping .set (ofMembers members)

def ofValues : List Value → List Node
  | [] => []
  | value :: rest => ofValue value :: ofValues rest

def ofEntries : List (Value × Value) → List (Node × Node)
  | [] => []
  | (name, value) :: rest => (ofValue name, ofValue value) :: ofEntries rest

/-- The members of a set are keys without values. -/
def ofMembers : List Value → List (Node × Node)
  | [] => []
  | member :: rest => (ofValue member, .scalar .null "null") :: ofMembers rest

end

end Node

end ImageOperator.Yaml
