import ImageOperator.Session.Step
import ImageOperator.Yaml.Format

set_option autoImplicit false

/-!
A small session to try theorems on: one workspace, images of a name, and a store in memory or on a disk.
-/

namespace ImageOperator.Session.Trial

def settings : Settings where
  disk := none
  home := "w"
  factory := .perWorkspace
  registry := ⟨"a", [("w", .text "dal12")], none, none⟩
  recorder := none
  config := Config.standard
  level := .warning
  now := ⟨⟨2024, 1, 2⟩, 0, 0, 0, 0, none⟩

def spec : Value :=
  .mapping [(.text "serviceInstanceID", .text "w"), (.text "bucket", .text "b"), (.text "object", .text "o"),
    (.text "region", .text "r")]

/-- Adds an image of a name, as it is before anything was done about it. -/
def add (name : String) : Command :=
  .add (.fields (.mapping [(.text "name", .text name), (.text "namespace", .text "s"), (.text "spec", spec)])) none

/-- The settings with an empty directory of documents. -/
def filing : Settings :=
  { settings with disk := some ⟨⟨[]⟩, Yaml.format⟩ }

/-- The resource document of an image of a name. -/
def resource (name : String) : Value :=
  .mapping [(.text "apiVersion", .text Image.version), (.text "kind", .text Image.kind),
    (.text "metadata", .mapping [(.text "name", .text name), (.text "namespace", .text "s")]), (.text "spec", spec)]

/-- Adds an image of a name with its document. -/
def write (name : String) : Command :=
  .addWritten (.document (resource name)) none

def id (name : String) : ObjectId :=
  ⟨Image.kind, .text "s", .text name⟩

def key (name : String) : ObjectKey :=
  ⟨Image.kind, .text "s", .text name⟩

/-- Lets calls of an operation fail. -/
def failing (operation : Operation) : Command :=
  .cloud none (.inject operation.text "down" none)

/-- The session at the start. -/
def first : Session := Session.start settings

/-- The session with one image added. -/
def lone : Session := (Session.step (add "m") first).state

end ImageOperator.Session.Trial
