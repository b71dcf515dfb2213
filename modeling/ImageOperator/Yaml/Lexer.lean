import ImageOperator.Yaml.Block
import ImageOperator.Yaml.Plain
import ImageOperator.Yaml.Property
import ImageOperator.Yaml.Quoted
/-!
Tokens of a text. Block structure follows from the columns of its lines: a collection begins where a line is indented
further than the collection around it and ends where one is indented less. A key shows only by the colon behind it,
so the lexer remembers where a key may have begun and puts its token there later.
-/

set_option autoImplicit false

namespace ImageOperator.Yaml

/-- A place where a key may have begun. -/
structure KeyStart where
  /-- How many tokens stand before it. -/
  position : Nat
  /-- Whether anything but a key would be wrong there. -/
  required : Bool
  offset : Nat
  line : Nat
  column : Nat

structure Lexer where
  cursor : Cursor
  /-- Latest first. -/
  tokens : List Token
  /-- Columns of the open block collections, innermost first. -/
  columns : List Nat
  /-- Where a key of the innermost flow collection may have begun, or of the block outside all of them. -/
  keyStart : Option KeyStart
  /-- The same for the collections around each open flow collection, innermost first. -/
  outerKeys : List (Option KeyStart)
  keyAllowed : Bool

namespace Lexer

abbrev Step := Except ReadFault Lexer

def start (cs : List Char) : Lexer :=
  ⟨Cursor.start cs, [], [], none, [], true⟩

def inFlow (lexer : Lexer) : Bool :=
  !lexer.outerKeys.isEmpty

def rest (lexer : Lexer) : List Char :=
  lexer.cursor.rest

/-- The column of the innermost block collection, -1 outside all of them. -/
def indent (lexer : Lexer) : Int :=
  match lexer.columns with
  | [] => -1
  | column :: _ => column

def emit (lexer : Lexer) (token : Token) : Lexer :=
  { lexer with tokens := token :: lexer.tokens }

def skip (lexer : Lexer) (count : Nat) : Lexer :=
  { lexer with cursor := lexer.cursor.skip count }

def allowKey (lexer : Lexer) (allowed : Bool) : Lexer :=
  { lexer with keyAllowed := allowed }

/-- Ends the block collections that are indented further than a column. -/
def unwind (lexer : Lexer) (column : Int) : Lexer :=
  if lexer.inFlow then lexer
  else
    let ended := lexer.columns.takeWhile fun (inner : Nat) => decide (column < inner)
    { lexer with
      columns := lexer.columns.drop ended.length
      tokens := List.replicate ended.length .blockEnd ++ lexer.tokens }

/-- Puts a token behind the first `position` tokens. -/
def insertAt (lexer : Lexer) (position : Nat) (token : Token) : Lexer :=
  let later := lexer.tokens.length - position
  { lexer with tokens := lexer.tokens.take later ++ token :: lexer.tokens.drop later }

/-- Begins a block collection at a column that is further in than the collection around it. -/
def openBlock (lexer : Lexer) (column position : Nat) (token : Token) : Lexer :=
  if lexer.indent < (column : Int) then
    { lexer.insertAt position token with columns := column :: lexer.columns }
  else lexer

/-! ### Keys -/

/-- The most characters between the beginning of a key and its colon. -/
def keyLimit : Nat := 1024

/-- Whether a key that began there can still be completed: in the same line and not too far on. -/
def isFresh (cursor : Cursor) (key : KeyStart) : Bool :=
  key.line = cursor.line && cursor.offset - key.offset ≤ keyLimit

def dropStaleKey (cursor : Cursor) : Option KeyStart → Except ReadFault (Option KeyStart)
  | none => .ok none
  | some key =>
    if isFresh cursor key then .ok (some key)
    else if key.required then .error .malformed else .ok none

def dropStaleKeys (lexer : Lexer) : Step := do
  let keyStart ← dropStaleKey lexer.cursor lexer.keyStart
  let outerKeys ← lexer.outerKeys.mapM (dropStaleKey lexer.cursor)
  return { lexer with keyStart, outerKeys }

def dropKey (lexer : Lexer) : Step :=
  match lexer.keyStart with
  | none => .ok lexer
  | some key => if key.required then .error .malformed else .ok { lexer with keyStart := none }

/-- Remembers that a key may begin here. -/
def saveKey (lexer : Lexer) : Step :=
  if lexer.keyAllowed then do
    let lexer ← lexer.dropKey
    let cursor := lexer.cursor
    let required := !lexer.inFlow && lexer.indent = (cursor.column : Int)
    return { lexer with
      keyStart := some ⟨lexer.tokens.length, required, cursor.offset, cursor.line, cursor.column⟩ }
  else .ok lexer

/-! ### Tokens by kind -/

/-- Goes to the next token over spaces, comments and line breaks; in a block a key may begin in a new line. -/
def skipBlank : Nat → Lexer → Lexer
  | 0, lexer => lexer
  | fuel + 1, lexer =>
    let cursor := (lexer.cursor.skipWhile (· = ' ')).skipComment
    if cursor.rest.head?.any isBreak then
      skipBlank fuel { lexer with cursor := cursor.next, keyAllowed := lexer.keyAllowed || !lexer.inFlow }
    else { lexer with cursor }

/-- A mark of a text's beginning is no part of it. -/
def skipMark (lexer : Lexer) : Lexer :=
  if lexer.cursor.offset = 0 && lexer.rest.head? = some '\uFEFF' then lexer.skip 1 else lexer

/-- Ends all block collections before a token that belongs to no document. -/
def betweenDocuments (lexer : Lexer) : Step := do
  return (← (lexer.unwind (-1)).dropKey).allowKey false

def directive (lexer : Lexer) : Step := do
  let lexer ← lexer.betweenDocuments
  let (token, rest) ← Property.directive lexer.rest.tail
  return { lexer.emit token with cursor := (lexer.cursor.skipTo rest).skipBreak }

def separator (lexer : Lexer) (token : Token) : Step := do
  return ((← lexer.betweenDocuments).emit token).skip 3

def openFlow (lexer : Lexer) (token : Token) : Step := do
  let lexer ← lexer.saveKey
  return { ((lexer.emit token).skip 1).allowKey true with
    keyStart := none, outerKeys := lexer.keyStart :: lexer.outerKeys }

def closeFlow (lexer : Lexer) (token : Token) : Step := do
  let lexer ← lexer.dropKey
  match lexer.outerKeys with
  | [] => .error .malformed
  | keyStart :: outerKeys =>
    return { ((lexer.emit token).skip 1).allowKey false with keyStart, outerKeys }

def comma (lexer : Lexer) : Step := do
  return ((← lexer.dropKey).emit .comma).skip 1 |>.allowKey true

/-- A mark that begins an entry of a block collection stands where a key may begin. -/
def entryMark (lexer : Lexer) (collection : Token) : Step :=
  if lexer.inFlow then .ok lexer
  else if lexer.keyAllowed then .ok (lexer.openBlock lexer.cursor.column lexer.tokens.length collection)
  else .error .malformed

def item (lexer : Lexer) : Step := do
  let lexer ← (← lexer.entryMark .blockSequence).dropKey
  return ((lexer.emit .item).skip 1).allowKey true

def key (lexer : Lexer) : Step := do
  let lexer ← (← lexer.entryMark .blockMapping).dropKey
  return ((lexer.emit .key).skip 1).allowKey !lexer.inFlow

/-- A colon completes the key before it, or separates a value from a key that is marked as one. -/
def value (lexer : Lexer) : Step :=
  match lexer.keyStart with
  | some key =>
    let lexer := ({ lexer with keyStart := none }).insertAt key.position .key
    let lexer := if lexer.inFlow then lexer else lexer.openBlock key.column key.position .blockMapping
    .ok (((lexer.emit .value).skip 1).allowKey false)
  | none => do
    let lexer ← lexer.entryMark .blockMapping
    return ((lexer.emit .value).skip 1).allowKey !lexer.inFlow

/-- A property or quoted scalar, given what it reads as. -/
def keyToken (lexer : Lexer) (read : Except ReadFault (Token × List Char)) : Step := do
  let lexer ← lexer.saveKey
  let (token, rest) ← read
  return { (lexer.emit token).allowKey false with cursor := lexer.cursor.skipTo rest }

def quoted (lexer : Lexer) (read : Except ReadFault (List Char × List Char)) : Step :=
  lexer.keyToken (read.map fun (text, rest) => (.scalar (String.ofList text) false, rest))

def plain (lexer : Lexer) : Step := do
  let lexer ← lexer.saveKey
  let result := Plain.scan lexer.inFlow (lexer.indent + 1).toNat .none lexer.cursor.column [] lexer.rest
  return { (lexer.emit (.scalar (String.ofList result.text) true)).allowKey result.endsLine with
    cursor := lexer.cursor.skipTo result.rest }

def block (lexer : Lexer) (folded : Bool) : Step := do
  let lexer ← lexer.dropKey
  let (header, rest) := Block.header lexer.rest.tail
  if !atFieldEnd rest then .error .malformed
  let cursor := ((lexer.cursor.skipTo rest).skipWhile (· = ' ')).skipComment
  if !atLineEnd cursor.rest then .error .malformed
  let cursor := cursor.skipBreak
  let (text, length) := Block.scan folded (max (lexer.indent + 1) 1).toNat header cursor.rest
  return { (lexer.emit (.scalar (String.ofList text) false)).allowKey true with cursor := cursor.skip length }

/-- Reads the token that begins here. -/
def token (lexer : Lexer) (c : Char) (more : List Char) : Step :=
  let atLineStart := lexer.cursor.column = 0
  let marks := lexer.inFlow || atWordEnd more
  if atLineStart && c = '%' then lexer.directive
  else if atLineStart && atSeparator (c :: more) then
    lexer.separator (if c = '-' then .documentStart else .documentEnd)
  else
    match c with
    | '[' => lexer.openFlow .openSequence
    | '\x7b' => lexer.openFlow .openMapping
    | ']' => lexer.closeFlow .closeSequence
    | '\x7d' => lexer.closeFlow .closeMapping
    | ',' => lexer.comma
    | '*' => lexer.keyToken (Property.name .alias more)
    | '&' => lexer.keyToken (Property.name .anchor more)
    | '!' => lexer.keyToken (Property.tag (c :: more))
    | '\'' => lexer.quoted (Quoted.single .none [] more)
    | '"' => lexer.quoted (Quoted.double .none .none [] more)
    | _ =>
      if c = '-' && atWordEnd more then lexer.item
      else if c = '?' && marks then lexer.key
      else if c = ':' && marks then lexer.value
      else if (c = '|' || c = '>') && !lexer.inFlow then lexer.block (c = '>')
      else if Plain.begins lexer.inFlow (c :: more) then lexer.plain
      else .error .malformed

/-- All tokens; every one but the ends of blocks takes at least one character. -/
def run : Nat → Lexer → Except ReadFault (List Token)
  | 0, _ => .error .malformed
  | fuel + 1, lexer => do
    let lexer := skipBlank (lexer.rest.length + 1) lexer
    let lexer ← lexer.dropStaleKeys
    let lexer := lexer.unwind lexer.cursor.column
    match lexer.rest with
    | [] => return (← lexer.betweenDocuments).tokens.reverse
    | c :: more => run fuel (← lexer.token c more)

end Lexer

/-- The tokens of a text, which may hold allowed characters only. -/
def Token.ofText (text : String) : Except ReadFault (List Token) :=
  let cs := unixLines text.toList
  if cs.all isAllowed then (Lexer.start cs).skipMark.run (cs.length + 1) else .error .malformed

end ImageOperator.Yaml
