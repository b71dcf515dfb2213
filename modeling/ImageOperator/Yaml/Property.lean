import ImageOperator.Disk.Format
import ImageOperator.Yaml.Cursor
import ImageOperator.Yaml.Numeral
import ImageOperator.Yaml.Token
/-!
Properties of nodes and directives: anchors, aliases and tags, and the lines before a document that name a version or
a handle for tags. The results are a token and what follows it.
-/

set_option autoImplicit false

namespace ImageOperator.Yaml.Property

abbrev Result := Except ReadFault (Token × List Char)

def isWordChar (c : Char) : Bool :=
  c.isAlphanum || c = '-' || c = '_'

def isUriChar (c : Char) : Bool :=
  c.isAlphanum || "-;/?:@&=+$,_.!~*'()[]%".toList.contains c

/-- Characters that may follow a name directly. -/
def nameEnds : List Char :=
  "?:,]\x7d%@`".toList

/-- The name behind the mark of an anchor or alias. -/
def name (make : String → Token) (cs : List Char) : Result :=
  let word := cs.takeWhile isWordChar
  let rest := cs.dropWhile isWordChar
  if word.isEmpty || !(atWordEnd rest || rest.head?.any nameEnds.contains) then .error .malformed
  else .ok (make (String.ofList word), rest)

/-- The text of escaped bytes, latest first. -/
def unescaped? (bytes : List UInt8) : Option (List Char) :=
  (String.fromUTF8? ⟨bytes.reverse.toArray⟩).map String.toList

/-- Resolves the escapes of a reference, given the escaped bytes before it, latest first. -/
def unescape : List UInt8 → List Char → Option (List Char)
  | bytes, '%' :: a :: b :: rest => do
    let high ← Numeral.digitValue? a
    let low ← Numeral.digitValue? b
    unescape (UInt8.ofNat (high * 16 + low) :: bytes) rest
  | bytes, c :: rest => do
    if c = '%' then none
    return (← unescaped? bytes) ++ c :: (← unescape [] rest)
  | bytes, [] => unescaped? bytes

/-- A reference in a tag or directive, never empty. -/
def uri (cs : List Char) : Except ReadFault (String × List Char) :=
  let word := cs.takeWhile isUriChar
  match unescape [] word with
  | some text => if word.isEmpty then .error .malformed else .ok (String.ofList text, cs.dropWhile isUriChar)
  | none => .error .malformed

/-- A handle: a word between exclamation marks, or one mark before a space. -/
def handle (cs : List Char) : Except ReadFault (String × List Char) :=
  match cs with
  | '!' :: ' ' :: rest => .ok ("!", ' ' :: rest)
  | '!' :: more =>
    match more.dropWhile isWordChar with
    | '!' :: rest => .ok (String.ofList ('!' :: more.takeWhile isWordChar ++ ['!']), rest)
    | _ => .error .malformed
  | _ => .error .malformed

/-- A tag with its mark: in angle brackets, the mark alone, or with a handle. -/
def tagParts (cs : List Char) : Except ReadFault (Option String × String × List Char) := do
  match cs with
  | '!' :: '<' :: more =>
    let (suffix, rest) ← uri more
    match rest with
    | '>' :: rest => return (none, suffix, rest)
    | _ => .error .malformed
  | '!' :: more =>
    if atWordEnd more then return (none, "!", more)
    else if (more.takeWhile fun c => !(c = ' ' || isBreak c)).contains '!' then
      let (name, rest) ← handle cs
      let (suffix, rest) ← uri rest
      return (some name, suffix, rest)
    else
      let (suffix, rest) ← uri more
      return (some "!", suffix, rest)
  | _ => .error .malformed

def tag (cs : List Char) : Result := do
  let (handle, suffix, rest) ← tagParts cs
  if atFieldEnd rest then return (.tag handle suffix, rest) else .error .malformed

def dropSpaces (cs : List Char) : List Char :=
  cs.dropWhile (· = ' ')

/-- A version: two numbers with a point between them. -/
def version (cs : List Char) : Result :=
  let major := cs.takeWhile Char.isDigit
  match cs.dropWhile Char.isDigit with
  | '.' :: more =>
    if major.isEmpty || (more.takeWhile Char.isDigit).isEmpty || !atFieldEnd (more.dropWhile Char.isDigit) then
      .error .malformed
    else .ok (.version ((Numeral.foldDigits 10 0 major).getD 0), more.dropWhile Char.isDigit)
  | _ => .error .malformed

def handleDefinition (cs : List Char) : Result := do
  let (name, rest) ← handle cs
  if rest.head? ≠ some ' ' then .error .malformed
  let (expansion, rest) ← uri (dropSpaces rest)
  if atFieldEnd rest then return (.handle name expansion, rest) else .error .malformed

/-- Nothing but a comment may follow a directive in its line. -/
def lineEnd (cs : List Char) : Except ReadFault (List Char) :=
  match dropSpaces cs with
  | '#' :: rest => .ok (rest.dropWhile fun c => !isBreak c)
  | rest => if atLineEnd rest then .ok rest else .error .malformed

/-- The directive behind its mark. -/
def directive (cs : List Char) : Result := do
  let word := cs.takeWhile isWordChar
  let rest := cs.dropWhile isWordChar
  if word.isEmpty || !atFieldEnd rest then .error .malformed
  let (token, rest) ←
    match String.ofList word with
    | "YAML" => version (dropSpaces rest)
    | "TAG" => handleDefinition (dropSpaces rest)
    | _ => .ok (.reserved, rest.dropWhile fun c => !isBreak c)
  return (token, ← lineEnd rest)

end ImageOperator.Yaml.Property
