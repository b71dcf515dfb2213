import ImageOperator.Value.Key
import ImageOperator.Yaml.Node
import ImageOperator.Yaml.Scalar
/-!
Values of nodes. A scalar is read by its tag. Collections are read level by level: of all the faults in a document the
one nearest to the root counts, and the first of those on one level. Mappings may be merged into others; a key that
occurs twice has its later value in its earlier place.
-/

set_option autoImplicit false

namespace ImageOperator.Yaml

/-- A fault with the level that it is met on. -/
structure Met where
  level : Nat
  fault : ReadFault

/-- What reading gives, or the fault that counts. -/
abbrev Leveled (α : Type) := Except Met α

namespace Leveled

variable {α β : Type}

def malformed (level : Nat) : Leveled α :=
  .error ⟨level, .malformed⟩

/-- Two results together; of two faults the one on the lower level counts, the first where they are on one. -/
def both : Leveled α → Leveled β → Leveled (α × β)
  | .ok x, .ok y => .ok (x, y)
  | .error e, .ok _ => .error e
  | .ok _, .error e => .error e
  | .error e, .error f => .error (if f.level < e.level then f else e)

def all : List (Leveled α) → Leveled (List α)
  | [] => .ok []
  | result :: rest => (both result (all rest)).map fun pair => pair.1 :: pair.2

/-- A fault beyond a level stands for a malformed document on that level. -/
def cap (level : Nat) : Leveled α → Leveled α
  | .error e => if level < e.level then malformed level else .error e
  | result => result

end Leveled

namespace Node

mutual

/-- The text that a node stands for as a scalar; a mapping stands for the scalar under a key made for that. -/
def scalarText? : Node → Option String
  | .scalar _ text => some text
  | .sequence _ _ => none
  | .mapping _ entries => entriesText? entries

def entriesText? : List (Node × Node) → Option String
  | [] => none
  | (name, value) :: rest => if name.tag = .scalarOf then scalarText? value else entriesText? rest

end

/-- A key that would stand for a scalar is a text among the keys of a mapping. -/
def asKey : Node → Node
  | .scalar .scalarOf text => .scalar .text text
  | .mapping .scalarOf entries => .mapping .text entries
  | node => node

/-- The entries of a mapping but those that merge others into it. -/
def ownEntries (entries : List (Node × Node)) : List (Node × Node) :=
  (entries.filter fun entry => entry.1.tag ≠ .merge).map fun entry => (asKey entry.1, entry.2)

mutual

/-- The entries that are merged into a mapping; of a sequence of mappings the last comes first. -/
def mergedEntries : List (Node × Node) → Option (List (Node × Node))
  | [] => some []
  | (name, value) :: rest => do
    let later ← mergedEntries rest
    if name.tag = .merge then return (← mergedValue value) ++ later else return later

def mergedValue : Node → Option (List (Node × Node))
  | .scalar _ _ => none
  | .sequence _ items => mergedItems items
  | .mapping _ entries => do return (← mergedEntries entries) ++ ownEntries entries

def mergedItems : List Node → Option (List (Node × Node))
  | [] => some []
  | item :: rest => do return (← mergedItems rest) ++ (← mergedItem item)

def mergedItem : Node → Option (List (Node × Node))
  | .mapping _ entries => do return (← mergedEntries entries) ++ ownEntries entries
  | .scalar _ _ | .sequence _ _ => none

end

/-- The entries of a mapping as they count: those that are merged into it go in front. -/
def flatEntries (entries : List (Node × Node)) : Option (List (Node × Node)) := do
  return (← mergedEntries entries) ++ ownEntries entries

/-- A scalar on a level. A timestamp takes the text of a scalar only. -/
def scalarValue (level : Nat) (node : Node) : Leveled Value :=
  match node.scalarText? with
  | none => .malformed level
  | some text =>
    match node, node.tag with
    | .mapping _ _, .timestamp => .error ⟨level, .scalar .type⟩
    | _, tag => (Scalar.value tag text).mapError fun fault => ⟨level, fault⟩

/-- Keys are read on the level of their mapping, and a key that is no scalar makes it malformed. -/
def keyValue (level : Nat) (result : Leveled Value) : Leveled Value :=
  match result.cap level with
  | .ok value => if value.key?.isSome then .ok value else .malformed level
  | .error e => .error e

/-- The entry of a mapping with one entry. -/
def single? : Node → Option (Node × Node)
  | .mapping _ [entry] => some entry
  | _ => none

/-- The value of a node on a level, given a bound of its height. What a collection holds is one level further. -/
def valueWithin : Nat → Nat → Node → Leveled Value
  | 0, level, _ => .malformed level
  | fuel + 1, level, node =>
    let value := valueWithin fuel (level + 1)
    let entries (nodes : List (Node × Node)) : Leveled Entries :=
      match flatEntries nodes with
      | none => .malformed (level + 1)
      | some flat =>
        (Leveled.all (flat.map fun entry =>
          Leveled.both (keyValue (level + 1) (value entry.1)) (value entry.2))).map Entries.ofList
    let pair (item : Node) : Leveled Value :=
      match single? item with
      | none => .malformed (level + 1)
      | some entry => (Leveled.both (value entry.1) (value entry.2)).map fun pair => .tuple [pair.1, pair.2]
    match node.tag, node with
    | .sequence, .sequence _ items => (Leveled.all (items.map value)).map .sequence
    | .ordered, .sequence _ items | .pairs, .sequence _ items => (Leveled.all (items.map pair)).map .sequence
    | .mapping, .mapping _ nodes => (entries nodes).map .mapping
    | .set, .mapping _ nodes => (entries nodes).map fun entries => .set (entries.map (·.1))
    | .sequence, _ | .ordered, _ | .pairs, _ | .mapping, _ | .set, _ => .malformed (level + 1)
    | _, _ => scalarValue level node

/-- The value of a node, or the fault of it that counts. -/
def value (node : Node) : Except ReadFault Value :=
  (valueWithin node.height 0 node).mapError Met.fault

end Node

end ImageOperator.Yaml
