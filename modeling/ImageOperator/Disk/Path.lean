import ImageOperator.Fault
/-!
Paths of files. A path is absolute or starts at the root of the documents; empty parts and single dots say nothing
and are left out, double dots stay in the path and are resolved in its location.
-/

set_option autoImplicit false

namespace ImageOperator

structure Path where
  absolute : Bool
  parts : List String
deriving DecidableEq, Inhabited

/-- A place in the file system: the names from its top. -/
abbrev Location := List String

namespace Path

def root : Path := ⟨false, []⟩

/-- The parts of a text between slashes. -/
def split : List Char → List (List Char)
  | [] => [[]]
  | c :: rest =>
    if c = '/' then [] :: split rest
    else
      match split rest with
      | [] => [[c]]
      | part :: others => (c :: part) :: others

def partsOf (text : String) : List String :=
  ((split text.toList).filter fun part => part ≠ [] && part ≠ ['.']).map String.ofList

def isAbsolute (text : String) : Bool :=
  ['/'].isPrefixOf text.toList

/-- A path continued by a text; an absolute text starts anew. -/
def join (path : Path) (text : String) : Path :=
  if isAbsolute text then ⟨true, partsOf text⟩ else { path with parts := path.parts ++ partsOf text }

def parent (path : Path) : Path :=
  { path with parts := path.parts.dropLast }

/-- The path with something added to its last name. -/
def withSuffix (path : Path) (suffix : String) : Path :=
  match path.parts.getLast? with
  | some name => { path with parts := path.parts.dropLast ++ [name ++ suffix] }
  | none => path

def slashed (parts : List String) : String :=
  String.intercalate "/" parts

/-- The name that stands for the root of the documents. -/
def rootName : String := "<root>"

def text (path : Path) : String :=
  if path.absolute then "/" ++ slashed path.parts else slashed (rootName :: path.parts)

def enter (location : Location) (part : String) : Location :=
  if part = ".." then location.dropLast else location ++ [part]

def location (path : Path) : Location :=
  path.parts.foldl enter (if path.absolute then [] else [rootName])

end Path

end ImageOperator
