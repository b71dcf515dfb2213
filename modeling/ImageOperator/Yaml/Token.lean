/-!
Tokens: the marks, properties and scalars of a document in order, block structure made explicit by tokens where a
block collection begins and ends and before each key.
-/

set_option autoImplicit false

namespace ImageOperator.Yaml

inductive Token
  | version (major : Nat)
  /-- A handle for tags and what it stands for. -/
  | handle (name expansion : String)
  /-- A directive without a meaning here. -/
  | reserved
  | documentStart
  | documentEnd
  | blockSequence
  | blockMapping
  | blockEnd
  | openSequence
  | closeSequence
  | openMapping
  | closeMapping
  | item
  | comma
  | key
  | value
  | alias (name : String)
  | anchor (name : String)
  /-- A tag without handle stands for itself. -/
  | tag (handle : Option String) (suffix : String)
  | scalar (text : String) (plain : Bool)
deriving DecidableEq, Inhabited

end ImageOperator.Yaml
