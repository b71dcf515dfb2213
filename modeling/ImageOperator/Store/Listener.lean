import ImageOperator.Attempt
/-!
Listeners of a store. A listener reports every change that it is told about and then reacts; a reaction that breaks is
written to the log and stops nobody. A change is told to the listeners that were there when it happened, in the order
of their registration, and each of them gets a copy of the image that is its own.
-/

set_option autoImplicit false

namespace ImageOperator

/-- A handle of a registration: calling it takes the first registration of the same listener and change away. -/
structure Remover where
  handle : String
  change : Change
  listener : String
deriving DecidableEq, Inhabited

/-- What goes on among the listeners of a store. -/
inductive Occurrence
  | told (listener : String) (change : Change) (id : ObjectId) (image : Image)
  /-- A remover was called. -/
  | removed (remover : Remover)

/-- One thing that a listener does. -/
inductive Act
  /-- Changes the image that it was given. -/
  | edit (change : Image → Image)
  /-- Calls the remover of a handle. -/
  | unlisten (handle : String)
  /-- Breaks, and does nothing more. -/
  | fail

/-- What a listener does besides reporting. It may go by everything that it or another one has lived to see, the change
that it is told of now being the last. -/
def Reaction : Type :=
  List Occurrence → List Act

namespace Reaction

def records : Reaction :=
  fun _ => []

def fails : Reaction :=
  fun _ => [.fail]

/-- Clears the status and the finalizers of the image that it was given. -/
def edit : Reaction :=
  fun _ => [.edit fun image => { image with status := .fresh, finalizers := [] }]

def unlisten (handle : String) : Reaction :=
  fun _ => [.unlisten handle]

instance : Inhabited Reaction := ⟨records⟩

end Reaction

structure Registration where
  change : Change
  listener : String
  reaction : Reaction
deriving Inhabited

structure Audience where
  registrations : List Registration
  removers : List Remover
  /-- All that has gone on among the listeners. -/
  past : List Occurrence
deriving Inhabited

namespace Audience

def standard : Audience :=
  ⟨Change.all.map fun change => ⟨change, "default", .records⟩, [], []⟩

def register (audience : Audience) (registration : Registration) (handle : String) : Audience :=
  { audience with
    registrations := audience.registrations ++ [registration]
    removers := ⟨handle, registration.change, registration.listener⟩ :: audience.removers }

def remover? (audience : Audience) (handle : String) : Option Remover :=
  audience.removers.find? fun remover => remover.handle = handle

def live (audience : Audience) (occurrence : Occurrence) : Audience :=
  { audience with past := audience.past ++ [occurrence] }

def remove (audience : Audience) (remover : Remover) : Audience :=
  { audience with
    registrations := audience.registrations.eraseP fun registration =>
      registration.change = remover.change && registration.listener = remover.listener
    past := audience.past ++ [.removed remover] }

def registered (audience : Audience) (change : Change) : List Registration :=
  audience.registrations.filter fun registration => registration.change = change

/-- The acts of a listener up to the first that breaks: the audience and the listener's image after them, and whether
one broke. -/
def act : List Act → Audience → Image → Audience × Image × Bool
  | [], audience, image => (audience, image, false)
  | .edit change :: rest, audience, image => act rest audience (change image)
  | .unlisten handle :: rest, audience, image =>
    match audience.remover? handle with
    | some remover => act rest (audience.remove remover) image
    | none => (audience, image, true)
  | .fail :: _, audience, image => (audience, image, true)

/-- The audience after a registered listener was told of a change, and whether its reaction broke. What it has made of
its image is nobody else's. -/
def react (audience : Audience) (registration : Registration) (change : Change) (id : ObjectId) (image : Image) :
    Audience × Bool :=
  let audience := audience.live (.told registration.listener change id image)
  let (audience, _, broken) := act (registration.reaction audience.past) audience image
  (audience, broken)

def brokenNote (change : Change) : Note :=
  .log .objects .error ("Store listener callback failed for event " ++ change.label)

/-- Tells a change to the given registrations one after the other. -/
def tell (change : Change) (id : ObjectId) (image : Image) : List Registration → Audience → Audience × List Note
  | [], audience => (audience, [])
  | registration :: rest, audience =>
    let (audience, broken) := audience.react registration change id image
    let (audience, notes) := tell change id image rest audience
    (audience,
      .fired registration.listener change id image ::
        (if broken then brokenNote change :: notes else notes))

/-- Tells a change to everyone registered for it. -/
def fire (audience : Audience) (change : Change) (id : ObjectId) (image : Image) : Audience × List Note :=
  tell change id image (audience.registered change) audience

end Audience

end ImageOperator
