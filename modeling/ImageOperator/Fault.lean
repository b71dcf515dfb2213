import ImageOperator.ObjectId
/-!
Faults: everything that can go wrong, by cause. `category` is what a caller may tell faults apart by, `message` the
wording. A fault of the outside world (an injected one, or one raised by a caller) brings its own category and
wording. Faults met while a scope is opened carry the fault that they come from.
-/

set_option autoImplicit false

namespace ImageOperator

/-- What stands in the way of a file operation. -/
inductive FileFault
  | nameTooLong
  | occupied
  | isFolder
  | notFolder
  | absent
  | nulByte
deriving DecidableEq, Inhabited

inductive Category
  | general
  | input
  | scope
  | cloud
  | cloudAbsent
  | objectAbsent
  | fieldAbsent
  | fieldInvalid
  | value
  | runtime
  | type
  | attribute
  | key
  | index
  | overflow
  | file (fault : FileFault)
deriving DecidableEq, Inhabited

namespace Category

/-- Categories of the operator's own faults. -/
def isOwn : Category → Bool
  | .general | .input | .scope | .cloud | .cloudAbsent | .objectAbsent => true
  | _ => false

def isCloud : Category → Bool
  | .cloud | .cloudAbsent => true
  | _ => false

/-- Whether faults of the first category are faults of the second as well. -/
def refines (a b : Category) : Bool :=
  a = b || (b = .general && a.isOwn) || (b = .cloud && a.isCloud)

end Category

inductive Fault
  /-- A document without a version. -/
  | versionAbsent (document : Value)
  /-- A document whose version is of another domain. -/
  | versionForeign (document : Value)
  | kindForeign (kind document : Value)
  /-- A document without a part that every image has, named by its path. -/
  | partAbsent (part : String) (document : Value)
  | fieldAbsent (owner field shape : String)
  | fieldInvalid (owner field shape : String) (value : Value)
  /-- A record was to be read from something else than a mapping. -/
  | notRecord (owner : String)
  /-- A text that names no member of an enumeration. -/
  | notMember (enumeration text : String)
  /-- A value without the operation that it is used with. -/
  | attribute
  /-- A value of a type that an operation does not take. -/
  | type
  /-- A scalar whose text does not fit its tag. -/
  | scalarInvalid
  /-- Nothing is known under a name. -/
  | keyAbsent (name : String)
  /-- A position beyond the end of a sequence, named by its kind. -/
  | indexOutside (kind : String)
  | regionUnknown (zone : String)
  | instanceUnknown (instanceId : String)
  | objectAbsent (id : ObjectId)
  | documentUnreadable (path : String)
  | documentNotMapping (path : String)
  | file (fault : FileFault)
  /-- A call to the cloud failed. -/
  | call (operation : String) (detail : Option String)
  /-- The target of a call to the cloud does not exist. -/
  | callTarget (operation : String) (detail : Option String)
  | jobUnknown (jobId : String)
  | storeAbsent
  | imageAbsent
  | account (cause : Fault)
  | resource (cause : Fault)
  | region (cause : Fault)
  | client (cause : Fault)
  | closed (image : String)
  | inconsistent (image : String) (ready : Bool) (imageId : String)
  /-- A fault from outside. -/
  | foreign (category : Category) (message : String)
deriving Inhabited

namespace Fault

def category : Fault → Category
  | .versionAbsent _ | .versionForeign _ | .kindForeign _ _ | .partAbsent _ _ => .input
  | .fieldAbsent _ _ _ => .fieldAbsent
  | .fieldInvalid _ _ _ _ => .fieldInvalid
  | .notRecord _ | .notMember _ _ | .scalarInvalid | .jobUnknown _ => .value
  | .attribute => .attribute
  | .type => .type
  | .keyAbsent _ => .key
  | .indexOutside _ => .index
  | .regionUnknown _ | .documentUnreadable _ | .documentNotMapping _ => .input
  | .instanceUnknown _ => .general
  | .objectAbsent _ => .objectAbsent
  | .file .nulByte => .value
  | .file fault => .file fault
  | .call _ _ => .cloud
  | .callTarget _ _ => .cloudAbsent
  | .storeAbsent | .imageAbsent | .account _ | .resource _ | .region _ | .client _ | .closed _
  | .inconsistent _ _ _ => .scope
  | .foreign category _ => category

/-- Faults of calls to the cloud. -/
def isCloud (fault : Fault) : Bool :=
  fault.category.isCloud

/-- The operator's own faults. -/
def isOwn (fault : Fault) : Bool :=
  fault.category.isOwn

/-- The call that failed. -/
def operation? : Fault → Option String
  | .call operation _ | .callTarget operation _ => some operation
  | _ => none

/-- What the cloud said about a failed call. -/
def detail? : Fault → Option String
  | .call _ detail | .callTarget _ detail => detail
  | _ => none

def cause? : Fault → Option Fault
  | .account cause | .resource cause | .region cause | .client cause => some cause
  | _ => none

/-- A fault of a given category and wording; one of a call names the operation. -/
def raised (category : Category) (operation message : String) : Fault :=
  match category with
  | .cloud => .call operation (some message)
  | .cloudAbsent => .callTarget operation (some message)
  | category => .foreign category message

/-- How messages show the class of image objects. -/
def imageClass : String :=
  "<class 'image_import.manifest.ManagedImage'>"

def callText (operation : String) (detail : Option String) : String :=
  let said := detail.getD ""
  operation ++ " failed: " ++ (if said.isEmpty then "Unknown error" else said)

def message : Fault → String
  | .versionAbsent document => "Invalid object missing apiVersion: " ++ document.plain
  | .versionForeign document =>
    "Invalid object expected 'infrastructure.cluster.x-k8s.io': " ++ document.plain
  | .kindForeign kind document =>
    "Invalid " ++ imageClass ++ " unexpected kind " ++ kind.plain ++ ": " ++ document.plain
  | .partAbsent part document => "Invalid " ++ imageClass ++ " missing " ++ part ++ ": " ++ document.plain
  | .fieldAbsent owner field shape =>
    "Field \"" ++ field ++ "\" of type " ++ shape ++ " is missing in " ++ owner ++ " instance"
  | .fieldInvalid owner field shape value =>
    "Field \"" ++ field ++ "\" of type " ++ shape ++ " in " ++ owner ++ " has invalid value " ++ value.literal
  | .notRecord owner => "Argument for " ++ owner ++ ".__mashumaro_from_dict__ method should be a dict instance"
  | .notMember enumeration text => Text.literal text ++ " is not a valid " ++ enumeration
  | .attribute | .type | .scalarInvalid => ""
  | .keyAbsent name => Text.literal name
  | .indexOutside kind => kind ++ " index out of range"
  | .regionUnknown zone => "Region not found for zone '" ++ zone ++ "'"
  | .instanceUnknown instanceId => "Resource instance " ++ instanceId ++ " not found"
  | .objectAbsent id => "Object " ++ id.text ++ " not found in store"
  | .documentUnreadable path => "Unable to parse document " ++ path
  | .documentNotMapping path => "Document " ++ path ++ " is not a mapping"
  | .file .nulByte => "embedded null byte"
  | .file _ => ""
  | .call operation detail | .callTarget operation detail => callText operation detail
  | .jobUnknown jobId => "Unknown import job " ++ jobId
  | .storeAbsent => "failed to generate new scope from missing store"
  | .imageAbsent => "failed to generate new scope from missing image"
  | .account cause => "failed to get account: " ++ cause.message
  | .resource cause => "failed to get resource instance: " ++ cause.message
  | .region cause => "failed to get region: " ++ cause.message
  | .client cause => "failed to create cloud image client: " ++ cause.message
  | .closed image => "Scope for " ++ image ++ " already closed"
  | .inconsistent image ready imageId =>
    "Refusing to persist " ++ image ++ " with inconsistent status (ready=" ++ Value.boolText ready ++ ", imageID=" ++
      Text.literal imageId ++ ")"
  | .foreign _ message => message

end Fault

end ImageOperator
