import ImageOperator.Session.State
/-!
Commands of a session, and what they answer.
-/

set_option autoImplicit false

namespace ImageOperator

/-- Where an image comes from. -/
inductive Source
  | document (value : Value)
  | fields (value : Value)
  | kept (name : String)
deriving Inhabited

/-- What a scope is opened on. -/
inductive Subject
  | source (source : Source)
  | stored (id : ObjectId)
  | absent
deriving Inhabited

structure OpenRequest where
  scope : String
  subject : Subject
  hasStore : Bool
  debug : Bool
  logger : Option (String × Level)
  keep : Option String
deriving Inhabited

/-- A change to an image in place. -/
structure Edit where
  ready : Option Bool
  imageId : Option String
  phase : Option String
  jobId : Option String
  deletion : Option Value
  addFinalizers : List Value
  removeFinalizers : List Value
deriving Inhabited

inductive ScopeCall
  | ensureImage
  | latestJob
  | deleteImage
  | deleteJob
  | close
  | closed
  | image
  | client
  | keepImage (name : String)
  | isReady
  | imageId
  | phase
  | jobId
  | setReady (ready : Bool)
  | setImageId (imageId : Option String)
  | setJobId (jobId : String)
  | setPhase (text : String)
  | addFinalizer (name : Value)
  | removeFinalizer (name : Value)
  | hasFinalizer (name : Value)
deriving Inhabited

/-- A change or a question to a workspace. -/
inductive CloudCommand
  | addImage (name : Value) (imageId : String)
  | startJob (jobId : String)
  | completeJob (jobId : String)
  | failJob (jobId message : String)
  | getJob (jobId : String)
  | deleteJob (jobId : String)
  | listImages
  | createJob (request : Value)
  | latestJob (instanceId : String)
  | deleteImage (imageId : String)
  | inject (operation message : String) (kind : Option Category)
  | schedule (due : List (Option Upset))
  | clear
deriving Inhabited

inductive Command
  | add (source : Source) (keep : Option String)
  | addWritten (source : Source) (keep : Option String)
  | persist (source : Source) (keep : Option String)
  | get (id : ObjectId) (keep : Option String)
  | list (keep : Option String) (index : Nat)
  | kept (name : String)
  | changeKept (name : String) (edit : Edit)
  | requestDeletion (id : ObjectId)
  | modify (id : ObjectId) (writes : Bool) (edit : Edit)
  | listen (change listener handle : String) (reaction : Reaction)
  | unlisten (handle : String)
  | setNow (now : Timestamp)
  | writeFile (path text : String)
  | makeFolder (path : String)
  | deleteFile (path : String)
  | deleteRoot
  | files
  | pathFor (id : ObjectId)
  | load
  | reopen
  | cloud (workspace : Option String) (command : CloudCommand)
  | open (request : OpenRequest)
  | within (request : OpenRequest) (body : List Command) (raised : Option Fault)
  | scope (name : String) (call : ScopeCall)
  | reconcile (id : ObjectId)
  | setRegistry (registry : Registry)
  | state

/-- All that a session shows of itself. -/
structure View where
  objects : List Image
  workspaces : List (String × Workspace)
  files : Option (List (String × String))
  reasons : Option (List String)

inductive Answer
  | done
  | absent
  | image (image : Image)
  | texts (texts : List String)
  | text (text : String)
  | truth (truth : Bool)
  | files (files : List (String × String))
  | cloudImage (image : CloudImage)
  | cloudImages (images : List CloudImage)
  | job (job : Job)
  | jobId (jobId : String)
  | ensured (ensured : Ensured)
  | requeue (seconds : Pass.Requeue)
  | view (view : View)

end ImageOperator
