import ImageOperator.Calendar
import ImageOperator.Number.Binary64
/-!
Dynamic values: what a document holds before anything is known about it. Mappings and sets keep the order in which
their members were put in. Truth is emptiness for texts and collections, zero for numbers.
-/

set_option autoImplicit false

namespace ImageOperator

inductive Value
  | null
  | bool (b : Bool)
  | int (i : Int)
  | float (x : Binary64)
  | text (s : String)
  | bytes (data : List UInt8)
  | date (d : Date)
  | timestamp (t : Timestamp)
  | sequence (items : List Value)
  | tuple (items : List Value)
  | mapping (entries : List (Value × Value))
  | set (members : List Value)
deriving Inhabited

/-- The entries of a mapping, in order. -/
abbrev Entries := List (Value × Value)

namespace Value

def isTrue : Value → Bool
  | .null => false
  | .bool b => b
  | .int i => i ≠ 0
  | .float x => !x.isZero
  | .text s => !s.isEmpty
  | .bytes data => !data.isEmpty
  | .date _ | .timestamp _ => true
  | .sequence items | .tuple items | .set items => !items.isEmpty
  | .mapping entries => !entries.isEmpty

def isNull : Value → Bool
  | .null => true
  | _ => false

/-- The entries of a mapping; no other value has any. -/
def entries? : Value → Option Entries
  | .mapping entries => some entries
  | _ => none

end Value

namespace Entries

/-- The value under a text key. -/
def get? : Entries → String → Option Value
  | [], _ => none
  | (.text key, value) :: rest, name => if key = name then some value else get? rest name
  | _ :: rest, name => get? rest name

/-- The value under a text key, null when there is none. -/
def get (entries : Entries) (name : String) : Value :=
  (get? entries name).getD .null

end Entries

end ImageOperator
