import ImageOperator.Value.Basic
/-!
Keys: what two scalar values have in common when they count as one key of a mapping. Numbers are one key when they
are numerically equal, booleans being zero and one; timestamps with an offset are one key when they denote the same
moment. Collections that can change have no key.
-/

set_option autoImplicit false

namespace ImageOperator

inductive Key
  | null
  | number (value : Dyadic)
  | infinite (negative : Bool)
  | nan
  | text (s : String)
  | bytes (data : List UInt8)
  | date (d : Date)
  | moment (universal : Bool) (microseconds : Int)
deriving DecidableEq

namespace Binary64

def key : Binary64 → Key
  | .finite value => .number value
  | .negativeZero => .number .zero
  | .infinite negative => .infinite negative
  | .nan => .nan

end Binary64

namespace Value

def key? : Value → Option Key
  | .null => some .null
  | .bool b => some (.number (if b then Dyadic.ofInt 1 else .zero))
  | .int i => some (.number (Dyadic.ofInt i))
  | .float x => some x.key
  | .text s => some (.text s)
  | .bytes data => some (.bytes data)
  | .date d => some (.date d)
  | .timestamp t => some (.moment t.offset.isSome t.moment)
  | .sequence _ | .tuple _ | .mapping _ | .set _ => none

@[simp] theorem key?_text (s : String) : key? (.text s) = some (.text s) := rfl

end Value

namespace Entries

def find? (entries : Entries) (key : Key) : Option Value :=
  (List.find? (fun entry => decide (entry.1.key? = some key)) entries).map (·.2)

/-- Puts a value under a key: in the place of the same key, else at the end. -/
def insert : Entries → Value → Value → Entries
  | [], name, value => [(name, value)]
  | entry :: rest, name, value =>
    if entry.1.key? = name.key? then (entry.1, value) :: rest else entry :: insert rest name value

def ofList (entries : List (Value × Value)) : Entries :=
  entries.foldl (fun kept entry => insert kept entry.1 entry.2) []

end Entries

end ImageOperator
