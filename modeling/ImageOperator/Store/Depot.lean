import ImageOperator.Disk.Format
import ImageOperator.Image.Document
import ImageOperator.Store.Catalog
import ImageOperator.Store.Listener
/-!
Stores of images. A depot keeps its images in a catalog and tells its audience about every change; with a disk it also
keeps a document for each image that it persists. The document is written, or taken away, before anything else
changes, so an operation that fails leaves the catalog as it was and tells nobody.
-/

set_option autoImplicit false

namespace ImageOperator

structure Depot where
  objects : Catalog
  audience : Audience
  /-- None for a store in memory only. -/
  disk : Option Disk

namespace Depot

def empty (disk : Option Disk) : Depot :=
  ⟨[], Audience.standard, disk⟩

def documentSuffix : String := ".yaml"

def temporarySuffix : String := ".tmp"

/-- The key of an identifier. -/
def keyOf (id : ObjectId) : Except Fault ObjectKey :=
  match id.key? with
  | some key => .ok key
  | none => .error .type

/-- The path of an object's document: namespace, then name. -/
def documentPath (id : ObjectId) : Except Fault Path :=
  match id.name with
  | .text name =>
    match id.space with
    | .text space => .ok ((Path.root.join space).join (name ++ documentSuffix))
    | space => if space.isTrue then .error .type else .ok (Path.root.join (name ++ documentSuffix))
  | _ => .error .type

def temporaryPath (path : Path) : Path :=
  path.withSuffix temporarySuffix

/-- How a document gets into its place: beside it first, then over it in one step. -/
def writeSteps (path : Path) (text : String) : List FileStep :=
  let temporary := (temporaryPath path).location
  [.makeFolders path.parent.location, .truncate temporary, .append temporary text,
    .replace temporary path.location]

/-- A document is taken away only where there is something. -/
def removeSteps (tree : Tree) (path : Path) : List FileStep :=
  if tree.exists? path.location then [.remove path.location] else []

def takeSteps (disk : Disk) (steps : List FileStep) : Attempt Depot Unit := do
  match disk.tree.steps steps with
  | (.ok (), tree) => Attempt.update fun depot => { depot with disk := some { disk with tree } }
  | (.error fault, tree) =>
    Attempt.update fun depot => { depot with disk := some { disk with tree } }
    Attempt.fail (.file fault)

/-- Writes the document of an image, where the depot keeps documents. -/
def writeDocument (image : Image) : Attempt Depot Unit := do
  match (← Attempt.state).disk with
  | none => return ()
  | some disk =>
    let path ← Attempt.of (documentPath image.id)
    takeSteps disk (writeSteps path (disk.format.write image.document))
    Attempt.log .documents .debug ("Wrote " ++ image.id.text ++ " to " ++ path.text)

/-- Takes the document of an object away, where there is one. -/
def removeDocument (id : ObjectId) : Attempt Depot Unit := do
  match (← Attempt.state).disk with
  | none => return ()
  | some disk =>
    let path ← Attempt.of (documentPath id)
    let steps := removeSteps disk.tree path
    takeSteps disk steps
    if !steps.isEmpty then Attempt.log .documents .debug ("Removed " ++ path.text)

/-- Tells the audience about a change. -/
def fire (change : Change) (image : Image) : Attempt Depot Unit := do
  let depot ← Attempt.state
  let (audience, notes) := depot.audience.fire change image.id image
  Attempt.update fun depot => { depot with audience }
  Attempt.note notes

def putObject (key : ObjectKey) (image : Image) : Attempt Depot Unit :=
  Attempt.update fun depot => { depot with objects := depot.objects.put key image }

/-- Puts an image into the store, in the place of one with the same identifier. -/
def addObject (image : Image) : Attempt Depot Unit := do
  let key ← Attempt.of (keyOf image.id)
  let depot ← Attempt.state
  Attempt.log .objects .debug
    (if (depot.objects.get? key).isSome then "Updating existing object " ++ image.id.text ++ " in store"
      else "Adding object " ++ image.id.text ++ " to store")
  putObject key image
  fire .added image

/-- Writes the document of an image, then puts the image into the store. -/
def addWritten (image : Image) : Attempt Depot Unit := do
  if (← Attempt.state).disk.isNone then Attempt.fail .attribute
  writeDocument image
  addObject image

def getObject (id : ObjectId) : Attempt Depot (Option Image) := do
  let key ← Attempt.of (keyOf id)
  return (← Attempt.state).objects.get? key

def listObjects (depot : Depot) : List Image :=
  depot.objects.images

/-- Whether persisting an image takes it out of the store. -/
def leaves (image : Image) : Bool :=
  image.deletionRequested && image.finalizers.isEmpty

/-- Writes an image back; one that is to be deleted and has no finalizer left is taken out. -/
def persist (image : Image) : Attempt Depot Unit := do
  Attempt.note [.submitted image]
  let key ← Attempt.of (keyOf image.id)
  let depot ← Attempt.state
  if (depot.objects.get? key).isNone then Attempt.fail (.objectAbsent image.id)
  if leaves image then
    removeDocument image.id
    Attempt.log .objects .info ("Removed object " ++ image.id.text ++ " from store")
    Attempt.update fun depot => { depot with objects := depot.objects.erase key }
    fire .removed image
  else
    writeDocument image
    Attempt.log .objects .debug ("Persisted object " ++ image.id.text ++ " (" ++ image.status.literal ++ ")")
    putObject key image
    fire .persisted image

/-- Marks an object for deletion at a time; one that is marked keeps its mark. -/
def requestDeletion (id : ObjectId) (now : String) : Attempt Depot Unit := do
  let key ← Attempt.of (keyOf id)
  match (← Attempt.state).objects.get? key with
  | none => Attempt.fail (.objectAbsent id)
  | some image =>
    Attempt.log .objects .info ("Deletion requested for " ++ id.text)
    persist (image.marked now)

/-- The paths of all documents: the files with the suffix in the folders of the root, in the order of their names. -/
def documentPaths (tree : Tree) : List Path :=
  ((tree.pairsBelow Path.root.location).filter fun pair =>
      documentSuffix.toList.isSuffixOf pair.2.toList).map fun pair => ⟨false, [pair.1, pair.2]⟩

/-- The image that a document holds. -/
def readDocument (disk : Disk) (path : Path) : Except Fault Image :=
  match disk.tree.read path.location with
  | .error fault => .error (.file fault)
  | .ok text =>
    match disk.format.read text with
    | .error .malformed => .error (.documentUnreadable path.text)
    | .error (.scalar fault) => .error fault
    | .ok (.mapping entries) => Image.ofDocument (.mapping entries)
    | .ok _ => .error (.documentNotMapping path.text)

def loadDocument (disk : Disk) (path : Path) : Attempt Depot Unit := do
  let image ← Attempt.of (readDocument disk path)
  Attempt.log .documents .debug ("Loaded " ++ image.id.text ++ " from " ++ path.text)
  addObject image

def loadAll (disk : Disk) : List Path → Attempt Depot Unit
  | [] => pure ()
  | path :: rest => do
    loadDocument disk path
    loadAll disk rest

/-- Puts the images of all documents into the store, up to the first document that does not hold one. -/
def load : Attempt Depot Unit := do
  match (← Attempt.state).disk with
  | none => Attempt.fail .attribute
  | some disk => loadAll disk (documentPaths disk.tree)

end Depot

end ImageOperator
