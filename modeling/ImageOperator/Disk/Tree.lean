import ImageOperator.Disk.Path
/-!
File trees: files with their texts and folders, by location. The steps are the indivisible changes of a tree, and a
step that fails changes no file. Putting a document in its place takes several steps, so it can stop in between.
-/

set_option autoImplicit false

namespace ImageOperator

inductive Node
  | file (text : String)
  | folder
deriving DecidableEq, Inhabited

structure Tree where
  nodes : List (Location × Node)
deriving DecidableEq, Inhabited

namespace Tree

/-- What is at a location; the top is always a folder. -/
def node? (tree : Tree) (location : Location) : Option Node :=
  if location = [] then some .folder else tree.nodes.lookup location

def isFolder (tree : Tree) (location : Location) : Bool :=
  tree.node? location = some .folder

def exists? (tree : Tree) (location : Location) : Bool :=
  (tree.node? location).isSome

def replaceNode (location : Location) (node : Node) : List (Location × Node) → List (Location × Node)
  | [] => [(location, node)]
  | entry :: rest =>
    if entry.1 = location then (location, node) :: rest else entry :: replaceNode location node rest

def put (tree : Tree) (location : Location) (node : Node) : Tree :=
  ⟨replaceNode location node tree.nodes⟩

def erase (tree : Tree) (location : Location) : Tree :=
  ⟨tree.nodes.filter fun entry => entry.1 ≠ location⟩

/-- Takes a location and everything below it away. -/
def eraseAll (tree : Tree) (location : Location) : Tree :=
  ⟨tree.nodes.filter fun entry => !location.isPrefixOf entry.1⟩

/-- The most bytes that a name can have. -/
def nameLimit : Nat := 255

def checkName (name : String) : Except FileFault Unit :=
  if name.toList.contains '\x00' then .error .nulByte
  else if nameLimit < name.utf8ByteSize then .error .nameTooLong
  else .ok ()

/-- Makes a folder and the folders above it, given the location reached and the names that are left. -/
def makeFolders (tree : Tree) (reached : Location) : List String → Except FileFault Unit × Tree
  | [] => (.ok (), tree)
  | name :: rest =>
    match checkName name with
    | .error fault => (.error fault, tree)
    | .ok () =>
      let location := reached ++ [name]
      match tree.node? location with
      | some .folder => makeFolders tree location rest
      | some (.file _) => (.error (if rest.isEmpty then .occupied else .notFolder), tree)
      | none => makeFolders (tree.put location .folder) location rest

/-- Whether something can be put at a location: its name fits, and it lies in a folder. -/
def checkPlace (tree : Tree) (location : Location) : Except FileFault Unit :=
  match location.getLast? with
  | none => .error .isFolder
  | some name =>
    match checkName name with
    | .error fault => .error fault
    | .ok () =>
      match tree.node? location.dropLast with
      | some .folder => .ok ()
      | some (.file _) => .error .notFolder
      | none => .error .absent

end Tree

inductive FileStep
  /-- Makes a folder and those above it. -/
  | makeFolders (location : Location)
  /-- Makes a file or empties it. -/
  | truncate (location : Location)
  /-- Writes at the end of a file. -/
  | append (location : Location) (text : String)
  /-- Moves a file into the place of another. -/
  | replace (source target : Location)
  | remove (location : Location)
deriving DecidableEq, Inhabited

namespace Tree

def truncate (tree : Tree) (location : Location) : Except FileFault Unit × Tree :=
  match tree.checkPlace location with
  | .error fault => (.error fault, tree)
  | .ok () =>
    if tree.isFolder location then (.error .isFolder, tree) else (.ok (), tree.put location (.file ""))

def append (tree : Tree) (location : Location) (text : String) : Except FileFault Unit × Tree :=
  match tree.node? location with
  | some (.file before) => (.ok (), tree.put location (.file (before ++ text)))
  | some .folder => (.error .isFolder, tree)
  | none => (.error .absent, tree)

def replace (tree : Tree) (source target : Location) : Except FileFault Unit × Tree :=
  match tree.node? source, tree.checkPlace target with
  | _, .error fault => (.error fault, tree)
  | some (.file text), .ok () =>
    if tree.isFolder target then (.error .isFolder, tree)
    else (.ok (), (tree.erase source).put target (.file text))
  | some .folder, .ok () => (.error .isFolder, tree)
  | none, .ok () => (.error .absent, tree)

def remove (tree : Tree) (location : Location) : Except FileFault Unit × Tree :=
  match tree.node? location with
  | some (.file _) => (.ok (), tree.erase location)
  | some .folder => (.error .isFolder, tree)
  | none => (.error .absent, tree)

def step (tree : Tree) : FileStep → Except FileFault Unit × Tree
  | .makeFolders location => tree.makeFolders [] location
  | .truncate location => tree.truncate location
  | .append location text => tree.append location text
  | .replace source target => tree.replace source target
  | .remove location => tree.remove location

/-- The steps one after the other, up to the first that fails. -/
def steps (tree : Tree) : List FileStep → Except FileFault Unit × Tree
  | [] => (.ok (), tree)
  | step :: rest =>
    match tree.step step with
    | (.ok (), tree) => tree.steps rest
    | (.error fault, tree) => (.error fault, tree)

/-- The text of a file. -/
def read (tree : Tree) (location : Location) : Except FileFault String :=
  match tree.node? location with
  | some (.file text) => .ok text
  | some .folder => .error .isFolder
  | none => .error .absent

/-- The files below a location, with their names from there. -/
def filesBelow (tree : Tree) (location : Location) : List (Location × String) :=
  tree.nodes.filterMap fun entry =>
    match entry.2 with
    | .file text =>
      if location.isPrefixOf entry.1 && entry.1 ≠ location then some (entry.1.drop location.length, text) else none
    | .folder => none

/-- Folder and file name of everything two names below a location, in the order of the names. -/
def pairsBelow (tree : Tree) (location : Location) : List (String × String) :=
  let pairs := tree.nodes.filterMap fun entry =>
    if location.isPrefixOf entry.1 then
      match entry.1.drop location.length with
      | [folder, name] => some (folder, name)
      | _ => none
    else none
  pairs.mergeSort fun a b => a.1 < b.1 || (a.1 = b.1 && a.2 ≤ b.2)

end Tree

end ImageOperator
