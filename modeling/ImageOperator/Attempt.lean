import ImageOperator.Journal.Note
/-!
Attempts: activities on a state that may fail and leave notes. What an attempt did before it failed stays done, and
its notes stay written. A sequence of attempts ends at the first failure, and its notes are those of its parts in
order.
-/

set_option autoImplicit false

namespace ImageOperator

structure Outcome (σ α : Type) where
  result : Except Fault α
  state : σ
  notes : List Note

def Attempt (σ α : Type) : Type := σ → Outcome σ α

namespace Attempt

variable {σ τ α β : Type}

protected def pure (value : α) : Attempt σ α :=
  fun state => ⟨.ok value, state, []⟩

protected def bind (first : Attempt σ α) (next : α → Attempt σ β) : Attempt σ β := fun state =>
  match first state with
  | ⟨.ok value, middle, notes⟩ =>
    let last := next value middle
    ⟨last.result, last.state, notes ++ last.notes⟩
  | ⟨.error fault, middle, notes⟩ => ⟨.error fault, middle, notes⟩

instance : Monad (Attempt σ) where
  pure := Attempt.pure
  bind := Attempt.bind

def fail (fault : Fault) : Attempt σ α :=
  fun state => ⟨.error fault, state, []⟩

def state : Attempt σ σ :=
  fun state => ⟨.ok state, state, []⟩

def update (change : σ → σ) : Attempt σ Unit :=
  fun state => ⟨.ok (), change state, []⟩

def note (notes : List Note) : Attempt σ Unit :=
  fun state => ⟨.ok (), state, notes⟩

def log (channel : Channel) (level : Level) (message : String) : Attempt σ Unit :=
  note [.log channel level message]

def of (result : Except Fault α) : Attempt σ α :=
  fun state => ⟨result, state, []⟩

/-- The result of an attempt as a value: failing is not passed on. -/
def tried (attempt : Attempt σ α) : Attempt σ (Except Fault α) := fun state =>
  let outcome := attempt state
  ⟨.ok outcome.result, outcome.state, outcome.notes⟩

/-- An attempt on a part of a larger state. -/
def on (part : σ → τ) (put : τ → σ → σ) (attempt : Attempt τ α) : Attempt σ α := fun state =>
  let outcome := attempt (part state)
  ⟨outcome.result, put outcome.state state, outcome.notes⟩

end Attempt

end ImageOperator
