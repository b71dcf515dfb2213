import ImageOperator.Yaml.Moment
import ImageOperator.Yaml.Numeral
/-!
Tags: what kind of value a node stands for. `Tag.ofPlain` is the tag that a plain scalar has by its text alone; a
scalar is written plain only when this gives its tag back.
-/

set_option autoImplicit false

namespace ImageOperator.Yaml

inductive Tag
  | null
  | bool
  | int
  | float
  | binary
  | timestamp
  | text
  | sequence
  | mapping
  | set
  /-- Entries in the order of a sequence, each a mapping of its own. -/
  | ordered
  /-- As `ordered`, keys possibly repeated. -/
  | pairs
  | tuple
  /-- A key whose mapping is merged into the one that it stands in. -/
  | merge
  /-- A key for the scalar that a mapping stands for. -/
  | scalarOf
  | other
deriving DecidableEq, Inhabited

namespace Tag

/-- The tags of the standard repository by their names in it. -/
def names : List (Tag × String) := [
  (.null, "null"), (.bool, "bool"), (.int, "int"), (.float, "float"), (.binary, "binary"),
  (.timestamp, "timestamp"), (.text, "str"), (.sequence, "seq"), (.mapping, "map"), (.set, "set"),
  (.ordered, "omap"), (.pairs, "pairs"), (.tuple, "python/tuple"), (.merge, "merge"), (.scalarOf, "value")]

/-- The beginning of the full name of every standard tag. -/
def repository : String := "tag:yaml.org,2002:"

/-- The short form of a tag, as it stands before a node. -/
def short (tag : Tag) : String :=
  "!!" ++ (names.lookup tag).getD ""

/-- The tag with a full name. -/
def ofName (name : String) : Tag :=
  match names.find? fun entry => repository ++ entry.2 = name with
  | some entry => entry.1
  | none => .other

def trueTexts : List String :=
  ["yes", "Yes", "YES", "true", "True", "TRUE", "on", "On", "ON"]

def falseTexts : List String :=
  ["no", "No", "NO", "false", "False", "FALSE", "off", "Off", "OFF"]

def nullTexts : List String :=
  ["", "~", "null", "Null", "NULL"]

/-- A text without the line feed that may end it. -/
def withoutFinalBreak (cs : List Char) : List Char :=
  if cs.getLast? = some '\n' then cs.dropLast else cs

/-- The tag of a plain scalar. A line feed at its end does not count, unless there is nothing else. -/
def ofPlain (text : String) : Tag :=
  if text = "\n" then .text
  else
    let cs := withoutFinalBreak text.toList
    let bare := String.ofList cs
    if trueTexts.contains bare || falseTexts.contains bare then .bool
    else if Numeral.isFloat cs then .float
    else if Numeral.isInteger cs then .int
    else if bare = "<<" then .merge
    else if nullTexts.contains bare then .null
    else if (Moment.ofChars? cs).any Moment.isPlain then .timestamp
    else if bare = "=" then .scalarOf
    else if bare = "!" || bare = "&" || bare = "*" then .other
    else .text

end Tag

end ImageOperator.Yaml
