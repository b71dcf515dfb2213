import ImageOperator.Yaml.Lexer
import ImageOperator.Yaml.Node
/-!
Nodes of a token sequence: a text holds at most one document, and a document one node. Collections in a block and in
brackets mean the same. An alias stands for the node with its anchor, which must be complete by then.
-/

set_option autoImplicit false

namespace ImageOperator.Yaml

/-- What is left to read, and what has been defined so far. -/
structure Reading where
  tokens : List Token
  /-- What the handles of tags stand for. -/
  handles : List (String × String)
  /-- The nodes with an anchor, none where the node is still being read. -/
  anchors : List (String × Option Node)

/-- A step of reading; it fails where the tokens are no document. -/
abbrev Reader := StateT Reading Option

namespace Reader

def fail {α : Type} : Reader α := fun _ => none

def peek : Reader (Option Token) := do
  return (← get).tokens.head?

def drop : Reader Unit :=
  modify fun reading => { reading with tokens := reading.tokens.tail }

/-- Whether one of the given tokens comes next. -/
def isNext (tokens : List Token) : Reader Bool := do
  return (← peek).any tokens.contains

/-- Goes over a token that must come next. -/
def expect (token : Token) : Reader Unit := do
  if ← isNext [token] then drop else fail

end Reader

namespace Node

/-- What a place without a node holds. -/
def absent : Node := .scalar .null ""

end Node

/-- The properties before a node; a tag is kept by its full name. -/
structure Properties where
  anchor : Option String
  tag : Option String

namespace Properties

def isEmpty (properties : Properties) : Bool :=
  properties.anchor.isNone && properties.tag.isNone

/-- The tag of a scalar. Without one of its own, or with the mark alone, a plain scalar has the tag of its text. -/
def scalarTag (properties : Properties) (plain : Bool) (text : String) : Tag :=
  match properties.tag with
  | none => if plain then Tag.ofPlain text else .text
  | some "!" => Tag.ofPlain text
  | some name => Tag.ofName name

def collectionTag (properties : Properties) (standard : Tag) : Tag :=
  match properties.tag with
  | none | some "!" => standard
  | some name => Tag.ofName name

end Properties

namespace Reader

/-- The full name of a tag. -/
def tagName (handle : Option String) (suffix : String) : Reader String := do
  match handle with
  | none => return suffix
  | some name =>
    match (← get).handles.lookup name with
    | some expansion => return expansion ++ suffix
    | none => fail

def anchor? : Reader (Option String) := do
  match ← peek with
  | some (.anchor name) => drop; return some name
  | _ => return none

def tag? : Reader (Option String) := do
  match ← peek with
  | some (.tag handle suffix) => drop; return some (← tagName handle suffix)
  | _ => return none

/-- An anchor and a tag in any order. -/
def properties : Reader Properties := do
  match ← anchor? with
  | some name => return ⟨some name, ← tag?⟩
  | none =>
    match ← tag? with
    | some name => return ⟨← anchor?, some name⟩
    | none => return ⟨none, none⟩

/-- Makes an anchor known; none is defined twice. -/
def announce (anchor : Option String) : Reader Unit := do
  match anchor with
  | none => return ()
  | some name =>
    if ((← get).anchors.lookup name).isSome then fail
    modify fun reading => { reading with anchors := (name, none) :: reading.anchors }

def define (anchor : Option String) (node : Node) : Reader Unit := do
  match anchor with
  | none => return ()
  | some name => modify fun reading => { reading with anchors := (name, some node) :: reading.anchors }

def aliased (name : String) : Reader Node := do
  match (← get).anchors.lookup name with
  | some (some node) => return node
  | _ => fail

/-! ### Nodes -/

/-- Where a node stands. -/
structure Position where
  /-- Block collections may begin here. -/
  inBlock : Bool
  /-- A block sequence may stand here without an indentation of its own. -/
  asValue : Bool

def Position.item : Position := ⟨true, false⟩
def Position.value : Position := ⟨true, true⟩
def Position.flow : Position := ⟨false, false⟩

/-- Properties without a node behind them belong to an empty scalar. -/
def emptyScalar (properties : Properties) : Reader Node :=
  if properties.isEmpty then fail else return .scalar (properties.scalarTag true "") ""

mutual

/-- A node, or nothing before one of the given tokens. -/
def nodeUnless (fuel : Nat) (position : Position) (ends : List Token) : Reader Node :=
  match fuel with
  | 0 => fail
  | fuel + 1 => do
    if ← isNext ends then return .absent else node fuel position

def node (fuel : Nat) (position : Position) : Reader Node :=
  match fuel with
  | 0 => fail
  | fuel + 1 => do
    match ← peek with
    | some (.alias name) =>
      drop
      aliased name
    | _ =>
      let properties ← properties
      announce properties.anchor
      let node ← content fuel position properties
      define properties.anchor node
      return node

/-- A node behind its properties. -/
def content (fuel : Nat) (position : Position) (properties : Properties) : Reader Node :=
  match fuel with
  | 0 => fail
  | fuel + 1 => do
    match ← peek with
    | some (.scalar text plain) =>
      drop
      return .scalar (properties.scalarTag plain text) text
    | some .openSequence =>
      drop
      return .sequence (properties.collectionTag .sequence) (← flowItems fuel true)
    | some .openMapping =>
      drop
      return .mapping (properties.collectionTag .mapping) (← flowEntries fuel true)
    | some token =>
      if position.asValue && token = .item then
        return .sequence (properties.collectionTag .sequence) (← valueItems fuel)
      else if position.inBlock && token = .blockSequence then
        drop
        return .sequence (properties.collectionTag .sequence) (← blockItems fuel)
      else if position.inBlock && token = .blockMapping then
        drop
        return .mapping (properties.collectionTag .mapping) (← blockEntries fuel)
      else emptyScalar properties
    | none => emptyScalar properties

def blockItems (fuel : Nat) : Reader (List Node) :=
  match fuel with
  | 0 => fail
  | fuel + 1 => do
    if ← isNext [.item] then
      drop
      let item ← nodeUnless fuel .item [.item, .blockEnd]
      return item :: (← blockItems fuel)
    else
      expect .blockEnd
      return []

/-- The items of a sequence that ends with the mapping around it. -/
def valueItems (fuel : Nat) : Reader (List Node) :=
  match fuel with
  | 0 => fail
  | fuel + 1 => do
    if ← isNext [.item] then
      drop
      let item ← nodeUnless fuel .item [.item, .key, .value, .blockEnd]
      return item :: (← valueItems fuel)
    else return []

def blockEntries (fuel : Nat) : Reader (List (Node × Node)) :=
  match fuel with
  | 0 => fail
  | fuel + 1 => do
    if ← isNext [.key] then
      drop
      let name ← nodeUnless fuel .value [.key, .value, .blockEnd]
      let value ← entryValue fuel .value [.key, .value, .blockEnd]
      return (name, value) :: (← blockEntries fuel)
    else
      expect .blockEnd
      return []

/-- The value behind a colon; without a colon there is none. -/
def entryValue (fuel : Nat) (position : Position) (ends : List Token) : Reader Node :=
  match fuel with
  | 0 => fail
  | fuel + 1 => do
    if ← isNext [.value] then
      drop
      nodeUnless fuel position ends
    else return .absent

/-- An item of a sequence in brackets may be a single entry of a mapping. -/
def flowItems (fuel : Nat) (first : Bool) : Reader (List Node) :=
  match fuel with
  | 0 => fail
  | fuel + 1 => do
    if ← isNext [.closeSequence] then
      drop
      return []
    if !first then expect .comma
    if ← isNext [.closeSequence] then
      drop
      return []
    let item ← flowItem fuel
    return item :: (← flowItems fuel false)

def flowItem (fuel : Nat) : Reader Node :=
  match fuel with
  | 0 => fail
  | fuel + 1 => do
    if ← isNext [.key] then
      drop
      let name ← nodeUnless fuel .flow [.value, .comma, .closeSequence]
      let value ← entryValue fuel .flow [.comma, .closeSequence]
      return .mapping .mapping [(name, value)]
    else node fuel .flow

def flowEntries (fuel : Nat) (first : Bool) : Reader (List (Node × Node)) :=
  match fuel with
  | 0 => fail
  | fuel + 1 => do
    if ← isNext [.closeMapping] then
      drop
      return []
    if !first then expect .comma
    if ← isNext [.closeMapping] then
      drop
      return []
    let entry ← flowEntry fuel
    return entry :: (← flowEntries fuel false)

/-- An entry in braces; a node without a mark is a key without value. -/
def flowEntry (fuel : Nat) : Reader (Node × Node) :=
  match fuel with
  | 0 => fail
  | fuel + 1 => do
    if ← isNext [.key] then
      drop
      let name ← nodeUnless fuel .flow [.value, .comma, .closeMapping]
      let value ← entryValue fuel .flow [.comma, .closeMapping]
      return (name, value)
    else return (← node fuel .flow, .absent)

end

/-! ### Documents -/

def standardHandles : List (String × String) :=
  [("!", "!"), ("!!", Tag.repository)]

/-- The directives before a document; the version is given once, each handle is defined once. -/
def directives (versioned : Bool) (handles : List (String × String)) :
    List Token → Option (List (String × String) × List Token)
  | .version major :: rest => if versioned || major ≠ 1 then none else directives true handles rest
  | .handle name expansion :: rest =>
    if (handles.lookup name).isSome then none else directives versioned ((name, expansion) :: handles) rest
  | .reserved :: rest => directives versioned handles rest
  | rest => some (handles, rest)

def isDirective : Token → Bool
  | .version _ | .handle _ _ | .reserved => true
  | _ => false

/-- Whether a document without a node ends here. -/
def atDocumentEnd : Option Token → Bool
  | none | some .documentStart | some .documentEnd => true
  | some token => isDirective token

/-- A document that begins with directives or a mark. -/
def markedDocument (fuel : Nat) : Reader Node := do
  let reading ← get
  match directives false [] reading.tokens with
  | none => fail
  | some (handles, tokens) =>
    set { reading with tokens, handles := handles ++ standardHandles }
    expect .documentStart
    if atDocumentEnd (← peek) then return .absent else node fuel .item

/-- The document of a text, where there is one; marks of its end may follow, but nothing else. -/
def document (fuel : Nat) : Reader (Option Node) := do
  match ← peek with
  | none => return none
  | some token =>
    let root ←
      if isDirective token || token = .documentStart then markedDocument fuel else node fuel .item
    let rest := (← get).tokens.dropWhile (· = .documentEnd)
    if rest.isEmpty then return some root else fail

end Reader

/-- The root of the document in a text, if the text holds any. -/
def Node.ofText (text : String) : Except ReadFault (Option Node) := do
  let tokens ← Token.ofText text
  let reading : Reading := ⟨tokens, Reader.standardHandles, []⟩
  match (Reader.document (4 * tokens.length + 8)).run reading with
  | some (root, _) => return root
  | none => .error .malformed

end ImageOperator.Yaml
