import ImageOperator.Fault
import ImageOperator.Text.Blank
import ImageOperator.Text.Case
/-!
Regions of cloud zones. A zone belongs to the region of the first table entry that the zone, without blanks around
it and in lower case, starts with.
-/

set_option autoImplicit false

namespace ImageOperator.Region

/-- Zone beginnings with their regions. -/
def table : List (String × String) := [
  ("us-south", "us-south"), ("us-east", "us-east"), ("dal", "us-south"), ("wdc", "us-east"), ("sao", "sao"),
  ("tor", "tor"), ("mon", "mon"), ("eu-de", "eu-de"), ("fra", "eu-de"), ("lon", "lon"), ("mad", "mad"),
  ("syd", "syd"), ("tok", "tok"), ("osa", "osa"), ("che", "che")]

def normalChars (zone : String) : List Char :=
  Text.lowerChars (Text.trimChars zone.toList)

/-- The region of the first entry whose beginning the characters start with. -/
def lookup (entries : List (String × String)) (cs : List Char) : Option String :=
  (entries.find? fun entry => entry.1.toList.isPrefixOf cs).map (·.2)

def ofZone (zone : String) : Except Fault String :=
  match lookup table (normalChars zone) with
  | some region => .ok region
  | none => .error (.regionUnknown zone)

end ImageOperator.Region
