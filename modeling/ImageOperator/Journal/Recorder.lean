import ImageOperator.Journal.Note
/-!
Recorders of events. A recorder may fail, but telling it of an event does not: it leaves a warning in the log instead.
-/

set_option autoImplicit false

namespace ImageOperator

inductive Recorder
  /-- Keeps the events. -/
  | memory
  /-- Writes the events to a channel of the log. -/
  | log (channel : Channel)
  /-- Fails where a fault is set for what the workspace has seen and for the event, else does as another recorder. The
  workspace writes a call down before each event, so any of the recorder's turns can be singled out. -/
  | failing (faultAt : Workspace → Event → Option Fault) (otherwise : Recorder)
deriving Inhabited

namespace Recorder

/-- Fails at every event. -/
def broken : Recorder :=
  .failing (fun _ _ => some (.foreign .runtime "sink unavailable")) .memory

def keepsEvents : Recorder → Bool
  | .memory => true
  | .log _ | .failing _ _ => false

def logLevel : Severity → Level
  | .normal => .info
  | .warning => .warning

/-- The notes of recording an event. -/
def record (workspace : Workspace) (event : Event) : Recorder → Except Fault (List Note)
  | .memory => .ok [.log .events .debug ("Recorded event " ++ event.text), .recorded event]
  | .log channel =>
    .ok [.log channel (logLevel event.severity)
      (event.reason ++ " " ++ event.subject.text ++ ": " ++ event.message)]
  | .failing faultAt otherwise =>
    match faultAt workspace event with
    | some fault => .error fault
    | none => otherwise.record workspace event

/-- The notes of telling a recorder of an event: a fault of recording it is only logged. -/
def notes (recorder : Recorder) (workspace : Workspace) (event : Event) : List Note :=
  match recorder.record workspace event with
  | .ok notes => notes
  | .error fault =>
    [.log .events .warning
      ("Failed to record event " ++ event.reason ++ " for " ++ event.subject.text ++ ": " ++ fault.message)]

end Recorder

end ImageOperator
