import ImageOperator.Region
/-!
The registry of accounts and workspaces, and what a client of a workspace is built from. Resolving goes account, zone,
region; a fault of the operator's own kind is told as that step's, any other goes through unchanged.
-/

set_option autoImplicit false

namespace ImageOperator

structure ClientOptions where
  account : String
  region : String
  zone : String
  workspace : String
  debug : Bool
deriving DecidableEq, Inhabited

structure Registry where
  account : String
  /-- Workspaces with their zones. -/
  zones : List (String × Value)
  accountFault : Option Fault
  zoneFault : Option Fault
deriving Inhabited

namespace Registry

def getAccount (registry : Registry) : Except Fault String :=
  match registry.accountFault with
  | some fault => .error fault
  | none => .ok registry.account

def getZone (registry : Registry) (workspace : String) : Except Fault Value :=
  match registry.zoneFault with
  | some fault => .error fault
  | none =>
    match registry.zones.lookup workspace with
    | none | some .null => .error (.instanceUnknown workspace)
    | some zone => .ok zone

/-- The zone's text and its region. -/
def regionOf : Value → Except Fault (String × String)
  | .text zone => (Region.ofZone zone).map fun region => (zone, region)
  | _ => .error .attribute

/-- Own faults are told as those of a step. -/
def step {α : Type} (wrap : Fault → Fault) : Except Fault α → Except Fault α
  | .ok value => .ok value
  | .error fault => .error (if fault.isOwn then wrap fault else fault)

def resolve (registry : Registry) (workspace : String) (debug : Bool) : Except Fault ClientOptions := do
  let account ← step .account registry.getAccount
  let zone ← step .resource (registry.getZone workspace)
  let (zone, region) ← step .region (regionOf zone)
  return { account, region, zone, workspace, debug }

end Registry

end ImageOperator
