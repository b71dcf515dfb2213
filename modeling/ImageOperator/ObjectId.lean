import ImageOperator.Value.Key
import ImageOperator.Value.Literal
/-!
Identifiers of objects: a kind, a namespace that may be absent and a name. Two identifiers are the same when their
keys are, and an identifier with a changeable part has no key. The order compares kind, namespace and name, texts by
code point; parts that are neither equal nor both texts cannot be compared.
-/

set_option autoImplicit false

namespace ImageOperator

structure ObjectId where
  kind : String
  space : Value
  name : Value
deriving Inhabited

structure ObjectKey where
  kind : String
  space : Key
  name : Key
deriving DecidableEq

namespace ObjectId

def key? (id : ObjectId) : Option ObjectKey :=
  match id.space.key?, id.name.key? with
  | some space, some name => some ⟨id.kind, space, name⟩
  | _, _ => none

/-- Namespace and name with a slash between them, the name alone without a namespace. -/
def path (id : ObjectId) : String :=
  if id.space.isTrue then id.space.plain ++ "/" ++ id.name.plain else id.name.plain

def text (id : ObjectId) : String :=
  id.kind ++ "/" ++ id.path

def orderParts? : List (Value × Value) → Option Ordering
  | [] => some .eq
  | (a, b) :: rest =>
    match a, b with
    | .text s, .text t => if s = t then orderParts? rest else some (compare s t)
    | a, b => if a.key?.isSome && a.key? = b.key? then orderParts? rest else none

def order? (a b : ObjectId) : Option Ordering :=
  orderParts? [(.text a.kind, .text b.kind), (a.space, b.space), (a.name, b.name)]

def less? (a b : ObjectId) : Option Bool :=
  (order? a b).map (· == .lt)

def comparable : List ObjectId → Bool
  | [] => true
  | id :: rest => rest.all (fun other => (order? id other).isSome) && comparable rest

/-- The identifiers in order, if any two of them can be compared. -/
def sorted? (ids : List ObjectId) : Option (List ObjectId) :=
  if comparable ids then some (ids.mergeSort fun a b => order? a b != some .gt) else none

/-- Whether each identifier comes before the one after it. -/
def steps? : List ObjectId → Option (List Bool)
  | a :: b :: rest => do
    let here ← less? a b
    return here :: (← steps? (b :: rest))
  | _ => some []

def distinct (ids : List ObjectId) : Nat :=
  (ids.map key?).eraseDups.length

end ObjectId

end ImageOperator
