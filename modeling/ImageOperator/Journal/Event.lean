import ImageOperator.ObjectId
/-!
Events: outcomes that are worth telling about an object.
-/

set_option autoImplicit false

namespace ImageOperator

inductive Severity
  | normal
  | warning
deriving DecidableEq, Inhabited

namespace Severity

def text : Severity → String
  | .normal => "Normal"
  | .warning => "Warning"

def ofText? (text : String) : Option Severity :=
  [Severity.normal, .warning].find? fun severity => severity.text = text

end Severity

structure Event where
  subject : ObjectId
  severity : Severity
  reason : String
  message : String
deriving Inhabited

namespace Event

def text (event : Event) : String :=
  event.severity.text ++ " " ++ event.reason ++ " " ++ event.subject.text ++ ": " ++ event.message

end Event

end ImageOperator
