import ImageOperator.Cloud.Basic
import ImageOperator.Cloud.Registry
import ImageOperator.Image.Basic
import ImageOperator.Journal.Event
import ImageOperator.Journal.Log
import ImageOperator.Store.Change
/-!
Notes: everything that an observer can see happen, in order. The operator's results never depend on them.
-/

set_option autoImplicit false

namespace ImageOperator

inductive Note
  /-- A client was called, its workspace being as given. -/
  | called (workspace : Workspace) (call : Call)
  /-- A listener was told about a change. -/
  | fired (listener : String) (change : Change) (id : ObjectId) (image : Image)
  /-- A client was asked for. -/
  | requested (options : ClientOptions)
  | recorded (event : Event)
  | logged (record : LogRecord)
  /-- An image was handed to a store to be persisted. -/
  | submitted (image : Image)

namespace Note

def log (channel : Channel) (level : Level) (message : String) : Note :=
  .logged ⟨channel, level, message⟩

def call? : Note → Option (Workspace × Call)
  | .called workspace call => some (workspace, call)
  | _ => none

def event? : Note → Option Event
  | .recorded event => some event
  | _ => none

def log? : Note → Option LogRecord
  | .logged record => some record
  | _ => none

def options? : Note → Option ClientOptions
  | .requested options => some options
  | _ => none

def submitted? : Note → Option Image
  | .submitted image => some image
  | _ => none

end Note

end ImageOperator
