import ImageOperator.Session.Command
/-!
Running commands. A command that fails leaves the session as far as it got; the commands after it still run, except
inside a scope that is opened for a body of commands, which the first failure leaves. Such a scope is closed on every
way out, and a fault of closing takes the place of the body's.
-/

set_option autoImplicit false

namespace ImageOperator

namespace Edit

def status (edit : Edit) (status : Image.Status) : Except Fault Image.Status := do
  let phase ← match edit.phase with
    | none => pure status.phase
    | some text =>
      match Phase.ofText? text with
      | some phase => pure phase
      | none => .error (.notMember "ImageState" text)
  return {
    ready := edit.ready.getD status.ready
    imageId := edit.imageId.getD status.imageId
    phase
    jobId := edit.jobId.getD status.jobId }

/-- The image after an edit, with the notes of its finalizers. -/
def apply (edit : Edit) (image : Image) : Except Fault (Image × List Note) := do
  let status ← edit.status image.status
  let image := { image with status, deletion := edit.deletion.getD image.deletion }
  let (image, notes) := edit.addFinalizers.foldl (fun (image, notes) name =>
    let (image, more) := image.withFinalizer name
    (image, notes ++ more)) (image, [])
  return edit.removeFinalizers.foldl (fun (image, notes) name =>
    let (image, more) := image.withoutFinalizer name
    (image, notes ++ more)) (image, notes)

end Edit

namespace Session

def heldImage? (session : Session) : Held → Option Image
  | .draft index => session.drafts[index]?
  | .scope index => (session.scopes[index]?).map (·.image)

def setHeld (session : Session) (image : Image) : Held → Session
  | .draft index => { session with drafts := session.drafts.set index image }
  | .scope index =>
    match session.scopes[index]? with
    | some scope => { session with scopes := session.scopes.set index { scope with image } }
    | none => session

/-- What a kept name stands for, with its image. -/
def keptImage (name : String) : Attempt Session (Held × Image) := do
  let session ← Attempt.state
  match session.kept.lookup name with
  | none => Attempt.fail (.keyAbsent name)
  | some held =>
    match session.heldImage? held with
    | some image => return (held, image)
    | none => Attempt.fail (.keyAbsent name)

/-- Keeps an image under a name, if one is given: the held one itself, else a draft of its own. -/
def keep (name : Option String) (image : Image) (held : Option Held) : Attempt Session Unit :=
  match name with
  | none => pure ()
  | some name => Attempt.update fun session =>
    match held with
    | some held => { session with kept := (name, held) :: session.kept }
    | none =>
      { session with
        drafts := session.drafts ++ [image]
        kept := (name, .draft session.drafts.length) :: session.kept }

/-- The image of a source, kept under a name if one is given. -/
def takeSource (source : Source) (name : Option String) : Attempt Session Image := do
  match source with
  | .document value =>
    let image ← Attempt.of (Image.ofDocument value)
    keep name image none
    return image
  | .fields value =>
    let image ← Attempt.of (Image.ofFields value)
    keep name image none
    return image
  | .kept kept =>
    let (held, image) ← keptImage kept
    keep name image (some held)
    return image

def takeSubject (subject : Subject) (name : Option String) : Attempt Session (Option Image) := do
  match subject with
  | .absent => return none
  | .source source => return some (← takeSource source name)
  | .stored id =>
    match ← inStore (Depot.getObject id) with
    | none => return none
    | some image =>
      keep name image none
      return some image

/-- Opens a scope under a name and gives its place among the scopes. -/
def openNamed (request : OpenRequest) : Attempt Session Nat := do
  match request.logger with
  | some (name, level) =>
    Attempt.update fun session => { session with thresholds := session.thresholds.set name level }
  | none => pure ()
  let image ← takeSubject request.subject request.keep
  let scope ← openScope {
    hasStore := request.hasStore
    image
    channel := request.logger.map fun logger => .custom logger.1
    debug := request.debug }
  let index := (← Attempt.state).scopes.length
  Attempt.update fun session =>
    { session with
      scopes := session.scopes ++ [scope]
      scopeNames := (request.scope, index) :: session.scopeNames }
  return index

def scopeAt (index : Nat) : Attempt Session Scope := do
  match (← Attempt.state).scopes[index]? with
  | some scope => return scope
  | none => Attempt.fail (.indexOutside "list")

def setScope (index : Nat) (scope : Scope) : Attempt Session Unit :=
  Attempt.update fun session => { session with scopes := session.scopes.set index scope }

/-- An attempt on the bench of an open scope. -/
def atBench {α : Type} (index : Nat) (attempt : Voice → Attempt Bench α) : Attempt Session α := do
  let scope ← scopeAt index
  let (result, scope) ← visit scope (attempt scope.voice)
  setScope index scope
  Attempt.of result

def closeAt (index : Nat) : Attempt Session Unit := do
  let (result, scope) ← closeScope (← scopeAt index)
  setScope index scope
  Attempt.of result

def callScope (index : Nat) : ScopeCall → Attempt Session Answer
  | .ensureImage => return .ensured (← atBench index Bench.ensureImage)
  | .latestJob => do
    match ← atBench index Bench.latestJob with
    | some job => return .job job
    | none => return .absent
  | .deleteImage => do atBench index Bench.deleteImage; return .done
  | .deleteJob => do atBench index Bench.deleteJob; return .done
  | .close => do closeAt index; return .done
  | .closed => return .truth (← scopeAt index).closed
  | .image => return .image (← scopeAt index).image
  | .client => return .text (← scopeAt index).workspace
  | .keepImage name => do
    let scope ← scopeAt index
    keep (some name) scope.image (some (.scope index))
    return .done
  | .isReady => return .truth (← scopeAt index).image.status.ready
  | .imageId => return .text (← scopeAt index).image.status.imageId
  | .phase => return .text (← scopeAt index).image.status.phase.text
  | .jobId => return .text (← scopeAt index).image.status.jobId
  | .setReady ready => do atBench index fun _ => Bench.setReady ready; return .done
  | .setImageId imageId => do
    match imageId with
    | some imageId => atBench index fun _ => Bench.setImageId imageId
    | none => pure ()
    return .done
  | .setJobId jobId => do atBench index fun _ => Bench.setJobId jobId; return .done
  | .setPhase text => do
    match Phase.ofText? text with
    | some phase => atBench index fun _ => Bench.setPhase phase
    | none => Attempt.fail (.notMember "ImageState" text)
    return .done
  | .addFinalizer name => do atBench index fun _ => Bench.addFinalizer name; return .done
  | .removeFinalizer name => do atBench index fun _ => Bench.removeFinalizer name; return .done
  | .hasFinalizer name => return .truth ((← scopeAt index).image.hasFinalizer name)

/-- Makes calls of an operation fail; a name that is no operation has no calls. -/
def inject (operation message : String) (kind : Option Category) (workspace : Workspace) : Workspace :=
  match Operation.ofText? operation with
  | none => workspace
  | some known =>
    match kind with
    | none => workspace.injectFailure known message
    | some kind => workspace.injectFault known (kind, message)

def callCloud (workspace : String) : CloudCommand → Attempt Session Answer
  | .addImage name imageId => do
    let image ← inWorkspace workspace fun state =>
      let (image, state) := state.addImage name imageId
      ⟨.ok image, state, []⟩
    return .cloudImage image
  | .startJob jobId => do inWorkspace workspace (Workspace.startJob jobId); return .done
  | .completeJob jobId => return .cloudImage (← inWorkspace workspace (Workspace.completeJob jobId))
  | .failJob jobId message => do inWorkspace workspace (Workspace.failJob jobId message); return .done
  | .getJob jobId => do
    let job ← inWorkspace workspace fun state => ⟨state.getJob jobId, state, []⟩
    return .job job
  | .deleteJob jobId => do inWorkspace workspace (Workspace.deleteJob jobId); return .done
  | .listImages => return .cloudImages (← inWorkspace workspace Workspace.listImages)
  | .createJob request => do
    inWorkspace workspace (pure ())
    let request ← Attempt.of (ImportRequest.ofFields request)
    return .jobId (← inWorkspace workspace (Workspace.createJob request))
  | .latestJob instanceId => do
    match ← inWorkspace workspace (Workspace.latestJob instanceId) with
    | some job => return .job job
    | none => return .absent
  | .deleteImage imageId => do inWorkspace workspace (Workspace.deleteImage imageId); return .done
  | .inject operation message kind => do
    inWorkspace workspace (Attempt.update (inject operation message kind))
    return .done
  | .schedule due => do
    inWorkspace workspace (Attempt.update (·.schedule due))
    return .done
  | .clear => do
    inWorkspace workspace (Attempt.update Workspace.clearFailures)
    return .done

/-- Registers a listener; a name that was registered for the change before reacts as it did then. -/
def listen (change listener handle : String) (reaction : Reaction) : Attempt Session Unit := do
  match Change.ofText? change with
  | none => Attempt.fail (.notMember "StoreEvent" change)
  | some change =>
    let session ← Attempt.state
    let known := session.reactions.lookup (listener, change)
    Attempt.update fun session =>
      { session with
        reactions := if known.isSome then session.reactions else ((listener, change), reaction) :: session.reactions
        handles := (handle, session.current) :: session.handles }
    inStore (Attempt.update fun depot =>
      { depot with
        audience := depot.audience.register ⟨change, listener, known.getD reaction⟩ handle })

def unlisten (handle : String) : Attempt Session Unit := do
  match (← Attempt.state).handles.lookup handle with
  | none => Attempt.fail (.keyAbsent handle)
  | some index =>
    inDepot index (Attempt.update fun depot =>
      match depot.audience.remover? handle with
      | some remover => { depot with audience := depot.audience.remove remover }
      | none => depot)

/-- Steps on the file tree, by whoever else uses the disk. -/
def onTree (steps : Tree → Except FileFault Unit × Tree) : Attempt Session Unit := do
  match (← Attempt.state).disk with
  | none => Attempt.fail .attribute
  | some disk =>
    match steps disk.tree with
    | (.ok (), tree) => Attempt.update fun session => { session with disk := some { disk with tree } }
    | (.error fault, tree) =>
      Attempt.update fun session => { session with disk := some { disk with tree } }
      Attempt.fail (.file fault)

def writeFile (path text : String) (tree : Tree) : Except FileFault Unit × Tree :=
  let path := Path.root.join path
  tree.steps [.makeFolders path.parent.location, .truncate path.location, .append path.location text]

def files (session : Session) : Option (List (String × String)) :=
  session.disk.map fun disk =>
    (disk.tree.filesBelow Path.root.location).map fun file => (Path.slashed file.1, file.2)

def view (session : Session) : View where
  objects := (session.depot session.current).listObjects
  workspaces := session.workspaces
  files := session.files
  reasons := if session.recorder.any Recorder.keepsEvents then some (session.recorded.map (·.reason)) else none

def editStored (id : ObjectId) (writes : Bool) (edit : Edit) : Attempt Session Answer := do
  match ← inStore (Depot.getObject id) with
  | none => return .absent
  | some image =>
    let (image, notes) ← Attempt.of (edit.apply image)
    emit notes
    if writes then inStore (Depot.persist image)
    return .image image

def listStored (name : Option String) (index : Nat) : Attempt Session Answer := do
  let session ← Attempt.state
  let images := (session.depot session.current).listObjects
  if name.isSome then
    match images[index]? with
    | some image => keep name image none
    | none => Attempt.fail (.indexOutside "list")
  return .texts (images.map fun image => image.id.text)

mutual

def step : Command → Attempt Session Answer
  | .add source name => do
    inStore (Depot.addObject (← takeSource source name))
    return .done
  | .addWritten source name => do
    inStore (Depot.addWritten (← takeSource source name))
    return .done
  | .persist source name => do
    inStore (Depot.persist (← takeSource source name))
    return .done
  | .get id name => do
    match ← inStore (Depot.getObject id) with
    | none => return .absent
    | some image =>
      keep name image none
      return .image image
  | .list name index => listStored name index
  | .kept name => return .image (← keptImage name).2
  | .changeKept name edit => do
    let (held, image) ← keptImage name
    let (image, notes) ← Attempt.of (edit.apply image)
    emit notes
    Attempt.update fun session => session.setHeld image held
    return .done
  | .requestDeletion id => do
    inStore (Depot.requestDeletion id (← Attempt.state).now.iso)
    return .done
  | .modify id writes edit => editStored id writes edit
  | .listen change listener handle reaction => do
    listen change listener handle reaction
    return .done
  | .unlisten handle => do
    unlisten handle
    return .done
  | .setNow now => do
    Attempt.update fun session => { session with now }
    return .done
  | .writeFile path text => do
    onTree (writeFile path text)
    return .done
  | .makeFolder path => do
    onTree fun tree => tree.step (.makeFolders (Path.root.join path).location)
    return .done
  | .deleteFile path => do
    onTree fun tree => tree.step (.remove (Path.root.join path).location)
    return .done
  | .deleteRoot => do
    onTree fun tree => (.ok (), tree.eraseAll Path.root.location)
    return .done
  | .files => do
    match (← Attempt.state).files with
    | some files => return .files files
    | none => Attempt.fail .attribute
  | .pathFor id => do
    if (← Attempt.state).disk.isNone then Attempt.fail .attribute
    let path ← Attempt.of (Depot.documentPath id)
    return .text (Path.slashed path.parts)
  | .load => do
    inStore Depot.load
    return .done
  | .reopen => do
    Attempt.update fun session =>
      { session with
        depots := session.depots ++ [Depot.empty session.disk]
        current := session.depots.length
        current_lt := by simp }
    return .done
  | .cloud workspace command => do
    let home := (← Attempt.state).home
    callCloud (workspace.getD home) command
  | .open request => do
    let _ ← openNamed request
    return .done
  | .within request body raised => do
    let index ← openNamed request
    let result ← (runBody body raised).tried
    closeAt index
    Attempt.of result
    return .done
  | .scope name call => do
    match (← Attempt.state).scopeNames.lookup name with
    | some index => callScope index call
    | none => Attempt.fail (.keyAbsent name)
  | .reconcile id => return .requeue (← reconcile id)
  | .setRegistry registry => do
    Attempt.update fun session => { session with registry }
    return .done
  | .state => return .view (← Attempt.state).view

/-- The commands of a body up to the first that fails, then the fault that the body ends with, if any. -/
def runBody : List Command → Option Fault → Attempt Session Unit
  | [], none => pure ()
  | [], some fault => Attempt.fail fault
  | command :: rest, raised => do
    let _ ← step command
    runBody rest raised

end

end Session

end ImageOperator
