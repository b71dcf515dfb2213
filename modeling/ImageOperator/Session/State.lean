import ImageOperator.Scope.Pass
import ImageOperator.Store.Depot
/-!
Sessions: stores, workspaces, open scopes and kept images side by side, with the settings that passes run under. A
scope works on its own copy of an image; images that are kept by name stay the same object under every name.
-/

set_option autoImplicit false

namespace ImageOperator

/-- How a client of a workspace is come by. -/
inductive Factory
  /-- One client for all. -/
  | shared
  /-- A client for each workspace. -/
  | perWorkspace
  | failing (fault : Fault)
deriving Inhabited

/-- A scope on an image: the copy, the workspace of its client and the store it is written back to. -/
structure Scope where
  image : Image
  workspace : String
  depot : Nat
  closed : Bool
  voice : Voice
deriving Inhabited

/-- What a kept name stands for. -/
inductive Held
  | draft (index : Nat)
  | scope (index : Nat)
deriving DecidableEq, Inhabited

structure Session where
  depots : List Depot
  /-- The store in use, by its place among the stores. -/
  current : Nat
  current_lt : current < depots.length
  disk : Option Disk
  workspaces : List (String × Workspace)
  /-- The workspace of the shared client. -/
  home : String
  factory : Factory
  registry : Registry
  recorder : Option Recorder
  config : Config
  thresholds : Thresholds
  now : Timestamp
  scopes : List Scope
  scopeNames : List (String × Nat)
  drafts : List Image
  kept : List (String × Held)
  /-- The reactions of listeners, by name and change. -/
  reactions : List ((String × Change) × Reaction)
  /-- The stores that handles of registrations belong to. -/
  handles : List (String × Nat)
  recorded : List Event

namespace Session

variable {τ α : Type}

/-- The settings of a session as it starts. -/
structure Settings where
  disk : Option Disk
  home : String
  factory : Factory
  registry : Registry
  recorder : Option Recorder
  config : Config
  level : Level
  now : Timestamp

def start (settings : Settings) : Session where
  depots := [Depot.empty settings.disk]
  current := 0
  current_lt := Nat.zero_lt_one
  disk := settings.disk
  workspaces := [(settings.home, Workspace.empty settings.home)]
  home := settings.home
  factory := settings.factory
  registry := settings.registry
  recorder := settings.recorder
  config := settings.config
  thresholds := ⟨settings.level, []⟩
  now := settings.now
  scopes := []
  scopeNames := []
  drafts := []
  kept := []
  reactions := Change.all.map fun change => (("default", change), .records)
  handles := []
  recorded := []

/-- Whether a note is to be seen: a log record only if its channel lets it through. -/
def shows (session : Session) : Note → Bool
  | .logged record => session.thresholds.lets record.channel record.level
  | _ => true

/-- Keeps the events among notes. -/
def keepEvents (session : Session) (notes : List Note) : Session :=
  { session with recorded := session.recorded ++ notes.filterMap Note.event? }

/-- An attempt on a part of the session. -/
def through (part : Session → τ) (put : τ → Session → Session) (attempt : Attempt τ α) : Attempt Session α :=
  fun session =>
    let outcome := attempt (part session)
    let session := put outcome.state session
    ⟨outcome.result, session.keepEvents outcome.notes, outcome.notes.filter session.shows⟩

def emit (notes : List Note) : Attempt Session Unit :=
  through (fun _ => ()) (fun _ session => session) (Attempt.note notes)

def say (channel : Channel) (level : Level) (message : String) : Attempt Session Unit :=
  emit [.log channel level message]

/-- A store with the disk as it is now. -/
def depot (session : Session) (index : Nat) : Depot :=
  { (session.depots[index]?).getD (Depot.empty none) with disk := session.disk }

def putDepot (index : Nat) (depot : Depot) (session : Session) : Session :=
  { session with
    depots := session.depots.set index depot
    current_lt := by simpa using session.current_lt
    disk := depot.disk }

/-- An attempt on a store. -/
def inDepot (index : Nat) (attempt : Attempt Depot α) : Attempt Session α :=
  through (·.depot index) (putDepot index) attempt

/-- An attempt on the store in use. -/
def inStore (attempt : Attempt Depot α) : Attempt Session α := do
  inDepot (← Attempt.state).current attempt

def workspace (session : Session) (name : String) : Workspace :=
  (session.workspaces.lookup name).getD (Workspace.empty name)

def replaceWorkspace (name : String) (workspace : Workspace) :
    List (String × Workspace) → List (String × Workspace)
  | [] => [(name, workspace)]
  | entry :: rest =>
    if entry.1 = name then (name, workspace) :: rest else entry :: replaceWorkspace name workspace rest

def putWorkspace (name : String) (workspace : Workspace) (session : Session) : Session :=
  { session with workspaces := replaceWorkspace name workspace session.workspaces }

/-- An attempt on a workspace, which is made if it is new. -/
def inWorkspace (name : String) (attempt : Attempt Workspace α) : Attempt Session α :=
  through (·.workspace name) (putWorkspace name) attempt

/-- What a new scope is asked for with. -/
structure Opening where
  hasStore : Bool
  image : Option Image
  channel : Option Channel
  debug : Bool

/-- The workspace whose client serves the options. -/
def clientFor (session : Session) (options : ClientOptions) : Except Fault String :=
  match session.factory with
  | .shared => .ok session.home
  | .perWorkspace => .ok options.workspace
  | .failing fault => .error (.client fault)

/-- Opens a scope: store and image have to be there, then account, zone and region are resolved, and last a client
is asked for. -/
def openScope (opening : Opening) : Attempt Session Scope := do
  if !opening.hasStore then Attempt.fail .storeAbsent
  match opening.image with
  | none => Attempt.fail .imageAbsent
  | some image =>
    let session ← Attempt.state
    let channel := opening.channel.getD .scopes
    let debug := opening.debug || session.thresholds.lets channel .debug
    let options ← Attempt.of (session.registry.resolve image.spec.workspace debug)
    say .options .debug
      ("Resolved workspace " ++ options.workspace ++ " in zone " ++ options.zone ++ " (region " ++
        options.region ++ ")")
    emit [.requested options]
    let workspace ← Attempt.of (session.clientFor options)
    Attempt.update fun session => putWorkspace workspace (session.workspace workspace) session
    return {
      image
      workspace
      depot := session.current
      closed := false
      voice := ⟨session.recorder.getD (.log channel), channel⟩ }

/-- An attempt on the copy of a scope and its workspace: its result, and the scope after it. -/
def visit (scope : Scope) (attempt : Attempt Bench α) : Attempt Session (Except Fault α × Scope) := fun session =>
  let outcome := attempt ⟨scope.image, session.workspace scope.workspace⟩
  let session := putWorkspace scope.workspace outcome.state.workspace session
  ⟨.ok (outcome.result, { scope with image := outcome.state.image }), session.keepEvents outcome.notes,
    outcome.notes.filter session.shows⟩

/-- Closes a scope: a status that is not consistent is refused, else the copy is written back. -/
def closeScope (scope : Scope) : Attempt Session (Except Fault Unit × Scope) := do
  if scope.closed then return (.error (.closed scope.image.path), scope)
  let scope := { scope with closed := true }
  let status := scope.image.status
  if !status.isConsistent then
    return (.error (.inconsistent scope.image.path status.ready status.imageId), scope)
  let result ← (inDepot scope.depot (Depot.persist scope.image)).tried
  return (result, scope)

/-- The work of a pass in an open scope, written back whatever it came to. -/
def workIn (config : Config) (scope : Scope) : Attempt Session Pass.Requeue := do
  let (result, scope) ← visit scope (Pass.body config scope.voice)
  match (← closeScope scope).1 with
  | .error fault => Attempt.fail fault
  | .ok () => Attempt.of result

/-- One pass over a stored object. -/
def reconcile (id : ObjectId) : Attempt Session Pass.Requeue := do
  match ← inStore (Depot.getObject id) with
  | none =>
    say .passes .info ("Image " ++ id.text ++ " not found in store, skipping")
    return none
  | some image =>
    say .passes .info ("Reconciling " ++ id.text)
    let config := (← Attempt.state).config
    workIn config
      (← openScope { hasStore := true, image := some image, channel := some .passes, debug := config.debug })

end Session

end ImageOperator
