/-!
Log records. Every part of the operator writes to a channel of its own; a custom channel has its own threshold, all
others share one.
-/

set_option autoImplicit false

namespace ImageOperator

inductive Level
  | debug
  | info
  | warning
  | error
deriving DecidableEq, Inhabited

namespace Level

def rank : Level → Nat
  | .debug => 10
  | .info => 20
  | .warning => 30
  | .error => 40

def text : Level → String
  | .debug => "DEBUG"
  | .info => "INFO"
  | .warning => "WARNING"
  | .error => "ERROR"

def all : List Level := [.debug, .info, .warning, .error]

def ofText? (text : String) : Option Level :=
  all.find? fun level => level.text = text

end Level

inductive Channel
  | images
  | events
  | scopes
  | passes
  | options
  | workspaces
  | objects
  | documents
  | custom (name : String)
deriving DecidableEq, Inhabited

namespace Channel

def text : Channel → String
  | .images => "image_import.manifest"
  | .events => "image_import.events"
  | .scopes => "image_import.scope"
  | .passes => "image_import.controller"
  | .options => "image_import.cloud.service"
  | .workspaces => "image_import.cloud.in_memory"
  | .objects => "image_import.store.in_memory"
  | .documents => "image_import.store.file"
  | .custom name => "image_import.custom." ++ name

end Channel

structure LogRecord where
  channel : Channel
  level : Level
  message : String
deriving DecidableEq, Inhabited

/-- The least level that each channel lets through; the latest threshold of a custom channel counts. -/
structure Thresholds where
  common : Level
  custom : List (String × Level)
deriving Inhabited

namespace Thresholds

def of (thresholds : Thresholds) : Channel → Level
  | .custom name => (thresholds.custom.lookup name).getD thresholds.common
  | _ => thresholds.common

def lets (thresholds : Thresholds) (channel : Channel) (level : Level) : Bool :=
  (thresholds.of channel).rank ≤ level.rank

def set (thresholds : Thresholds) (name : String) (level : Level) : Thresholds :=
  { thresholds with custom := (name, level) :: thresholds.custom }

end Thresholds

end ImageOperator
