/-!
The kinds of change to a store that listeners are told about.
-/

set_option autoImplicit false

namespace ImageOperator

inductive Change
  | added
  | persisted
  | removed
deriving DecidableEq, Inhabited

namespace Change

def text : Change → String
  | .added => "object_added"
  | .persisted => "object_persisted"
  | .removed => "object_removed"

/-- The name of the member, as log messages show it. -/
def label : Change → String
  | .added => "StoreEvent.OBJECT_ADDED"
  | .persisted => "StoreEvent.OBJECT_PERSISTED"
  | .removed => "StoreEvent.OBJECT_REMOVED"

def all : List Change := [.added, .persisted, .removed]

def ofText? (text : String) : Option Change :=
  all.find? fun change => change.text = text

end Change

end ImageOperator
