import ImageOperator.Value.Key
/-!
Equality of values. Scalars are equal when they have the same key, sequences item by item, mappings and sets
whatever their order.
-/

set_option autoImplicit false

namespace ImageOperator.Value

def sameKey (a b : Value) : Bool :=
  a.key?.isSome && decide (a.key? = b.key?)

mutual

def same : Value → Value → Bool
  | .sequence a, .sequence b => sameItems a b
  | .tuple a, .tuple b => sameItems a b
  | .mapping a, .mapping b => a.length == b.length && sameEntries a b
  | .set a, .set b => a.length == b.length && a.all fun member => b.any (sameKey member)
  | a, b => sameKey a b

def sameItems : List Value → List Value → Bool
  | [], [] => true
  | a :: rest, b :: others => same a b && sameItems rest others
  | _, _ => false

def sameEntries : List (Value × Value) → List (Value × Value) → Bool
  | [], _ => true
  | (name, value) :: rest, others =>
    (match name.key? with
      | some key =>
        match Entries.find? others key with
        | some other => same value other
        | none => false
      | none => false) && sameEntries rest others

end

end ImageOperator.Value
