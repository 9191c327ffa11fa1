import Stencil.Yaml.Quoted
import Stencil.Yaml.Unquoted

/-!
# Tokens of a document

Signs of the notation and scalars, with marks where block collections begin and end. A mapping shows itself
only at the colon after its first key, so a place that may turn out to begin a key is remembered, and the
marks are put in there later.
-/
namespace Stencil.Yaml

inductive Token where
  /-- A directive; `major` is the version that it asks for if it asks for one. -/
  | directive (major : Option Nat)
  | documentStart
  | documentEnd
  | streamEnd
  | blockListStart
  | blockMappingStart
  | blockEnd
  | flowListStart
  | flowListEnd
  | flowMappingStart
  | flowMappingEnd
  | blockEntry
  | flowEntry
  | key
  | value
  | alias (name : String)
  | anchor (name : String)
  /-- The full name of a tag; the lone exclamation mark has none. -/
  | tag (name : Option String)
  | scalar (text : String) (isPlain : Bool)
  deriving DecidableEq, Repr

/-- A place where a key may have begun. -/
structure KeyPlace where
  /-- How many flow collections are open there. -/
  level : Nat
  /-- How many tokens stand before it. -/
  number : Nat
  isRequired : Bool
  place : Cursor

structure Scanner where
  cursor : Cursor
  /-- The column of the innermost block collection. -/
  indent : Int
  indents : List Int
  /-- The open flow collections, innermost first; true for mappings. -/
  flow : List Bool
  keyAllowed : Bool
  keys : List KeyPlace
  tokens : Array Token

namespace Scanner

def start (cs : List Char) : Scanner := ⟨.start cs, -1, [], [], true, [], #[]⟩

def level (s : Scanner) : Nat := s.flow.length

def inFlow (s : Scanner) : Bool := !s.flow.isEmpty

def emit (s : Scanner) (t : Token) : Scanner := { s with tokens := s.tokens.push t }

def insert (s : Scanner) (number : Nat) (t : Token) : Scanner :=
  { s with tokens := s.tokens.insertIdxIfInBounds number t }

def moveTo (s : Scanner) (c : Cursor) : Scanner := { s with cursor := c }

/-! ### Places of keys -/

/-- A key ends on the line where it began and is not too long. -/
def isStale (s : Scanner) (k : KeyPlace) : Bool :=
  k.place.line != s.cursor.line || s.cursor.index - k.place.index > 1024

def dropStale (s : Scanner) : Except Fault Scanner :=
  if s.keys.any fun k => s.isStale k && k.isRequired then .error .missingColon
  else .ok { s with keys := s.keys.filter fun k => !s.isStale k }

/-- Forgets the place on the current level. -/
def dropKey (s : Scanner) : Except Fault Scanner :=
  if s.keys.any fun k => k.level = s.level && k.isRequired then .error .missingColon
  else .ok { s with keys := s.keys.filter fun k => k.level ≠ s.level }

/-- Remembers that a key may begin here. -/
def saveKey (s : Scanner) : Except Fault Scanner :=
  if s.keyAllowed then do
    let isRequired := !s.inFlow && s.indent = s.cursor.column
    let s ← s.dropKey
    return { s with keys := ⟨s.level, s.tokens.size, isRequired, s.cursor⟩ :: s.keys }
  else .ok s

/-! ### Indentation -/

/-- Closes the block collections that are indented deeper than the column. -/
def closeTo (column : Int) : Nat → Scanner → Scanner
  | 0, s => s
  | fuel + 1, s =>
    if s.indent > column then
      closeTo column fuel { s.emit .blockEnd with
        indent := s.indents.headD (-1)
        indents := s.indents.tail }
    else s

def unwind (s : Scanner) (column : Int) : Scanner :=
  if s.inFlow then s else closeTo column (s.indents.length + 1) s

/-- Opens a block collection at a column unless one is open there. -/
def openAt (s : Scanner) (column : Nat) (number : Nat) (t : Token) : Scanner :=
  if s.indent < column then
    { s.insert number t with indent := column, indents := s.indent :: s.indents }
  else s

/-! ### Blanks and comments -/

/-- Skips blanks, comments and line ends. Tabulators are blanks in flow collections alone. -/
def skipBlanks : Nat → Scanner → Scanner
  | 0, s => s
  | fuel + 1, s =>
    let c := s.cursor.skip fun x => x = ' ' || (x = '\t' && s.inFlow)
    let c := if c.peek 0 = '#' then c.skip (!isBreakOrEnd ·) else c
    match c.lineBreak? with
    | some (_, c) => skipBlanks fuel { s with cursor := c, keyAllowed := s.keyAllowed || !s.inFlow }
    | none => s.moveTo c

/-- A byte order mark may begin the document. -/
def skipMark (s : Scanner) : Scanner :=
  if s.cursor.index = 0 && s.cursor.peek 0 = '\ufeff' then s.moveTo s.cursor.step else s

/-! ### Signs of the notation -/

def sign (s : Scanner) (n : Nat) (t : Token) : Scanner := (s.emit t).moveTo (s.cursor.advance n)

def finish (s : Scanner) : Except Fault Scanner := do
  let s ← (s.unwind (-1)).dropKey
  return { s.emit .streamEnd with keyAllowed := false, keys := [] }

def documentMark (s : Scanner) (t : Token) : Except Fault Scanner := do
  let s ← (s.unwind (-1)).dropKey
  return { s.sign 3 t with keyAllowed := false }

def openFlow (s : Scanner) (isMapping : Bool) : Except Fault Scanner := do
  let s ← s.saveKey
  let t := if isMapping then Token.flowMappingStart else .flowListStart
  return { s.sign 1 t with flow := isMapping :: s.flow, keyAllowed := true }

def closeFlow (s : Scanner) (t : Token) : Except Fault Scanner := do
  let s ← s.dropKey
  return { s.sign 1 t with flow := s.flow.tail, keyAllowed := false }

def flowEntry (s : Scanner) : Except Fault Scanner := do
  let s ← s.dropKey
  return { s.sign 1 .flowEntry with keyAllowed := true }

def blockEntry (s : Scanner) : Except Fault Scanner := do
  if !s.inFlow && !s.keyAllowed then .error (.misplaced "sequence entries")
  else
    let s := if s.inFlow then s else s.openAt s.cursor.column s.tokens.size .blockListStart
    let s ← s.dropKey
    return { s.sign 1 .blockEntry with keyAllowed := true }

def explicitKey (s : Scanner) : Except Fault Scanner := do
  if !s.inFlow && !s.keyAllowed then .error (.misplaced "mapping keys")
  else
    let s := if s.inFlow then s else s.openAt s.cursor.column s.tokens.size .blockMappingStart
    let s ← s.dropKey
    return { s.sign 1 .key with keyAllowed := !s.inFlow }

/-- A colon. If a key may have begun on this level, it did. -/
def value (s : Scanner) : Except Fault Scanner := do
  match s.keys.find? fun k => k.level = s.level with
  | some k =>
    let s := { s with keys := s.keys.filter fun k => k.level ≠ s.level }
    let s := s.insert k.number .key
    let s := if s.inFlow then s else s.openAt k.place.column k.number .blockMappingStart
    return { s.sign 1 .value with keyAllowed := false }
  | none =>
    if !s.inFlow && !s.keyAllowed then .error (.misplaced "mapping values")
    else
      let s := if s.inFlow then s else s.openAt s.cursor.column s.tokens.size .blockMappingStart
      let s ← s.dropKey
      return { s.sign 1 .value with keyAllowed := !s.inFlow }

/-! ### Names, tags and directives -/

def isNameChar (c : Char) : Bool :=
  !([',', '[', ']', '{', '}'].contains c) &&
    ((0x21 ≤ c.toNat && c.toNat ≤ 0x7E) || (0xA0 ≤ c.toNat && c ≠ '\ufeff'))

/-- The name of an anchor or of an alias. -/
def named (s : Scanner) (make : String → Token) : Except Fault Scanner := do
  let s ← s.saveKey
  let (name, c) := s.cursor.step.span isNameChar
  let x := c.peek 0
  let signs := [' ', '\t', '?', ':', ',', '[', ']', '{', '}', '%', '@', '\x60']
  let ends := isBreakOrEnd x || signs.contains x
  if name.isEmpty || !ends then .error .badName
  else return { (s.emit (make (String.ofList name))).moveTo c with keyAllowed := false }

def isTagChar (c : Char) : Bool :=
  c.isAlphanum || ['-', ';', '/', '?', ':', '@', '&', '=', '+', '$', ',', '_', '.', '!', '~', '*',
    '\'', '(', ')', '[', ']', '%', '#'].contains c

/-- Names that begin with two exclamation marks belong to the notation itself. -/
def tagPrefix : String := "tag:yaml.org,2002:"

/-- The full name of a written tag. -/
def tagName : List Char → Option String
  | ['!'] => none
  | '!' :: '!' :: name => some (tagPrefix ++ String.ofList name)
  | '!' :: '<' :: name => some (String.ofList name.dropLast)
  | name => some (String.ofList name)

def tag (s : Scanner) : Except Fault Scanner := do
  let s ← s.saveKey
  let (written, c) := s.cursor.span fun x => isTagChar x || x = '<' || x = '>'
  let x := c.peek 0
  if isBreakOrEnd x || x = ' ' then
    return { (s.emit (.tag (tagName written))).moveTo c with keyAllowed := false }
  else .error .badTag

def isDirectiveChar (c : Char) : Bool := c.isAlphanum || ['-', '_', ':', '.'].contains c

/-- The two numbers of a version. -/
def version? (cs : List Char) : Option Nat :=
  let major := cs.takeWhile Char.isDigit
  match cs.dropWhile Char.isDigit with
  | '.' :: minor =>
    if major.isEmpty || minor.isEmpty || !minor.all Char.isDigit then none
    else some (Decimal.ofDigits 10 major)
  | _ => none

/-- A directive. Only the one for the version has a meaning here. -/
def directive (s : Scanner) : Except Fault Scanner := do
  let s ← (s.unwind (-1)).dropKey
  let (name, c) := s.cursor.step.span isDirectiveChar
  if name.isEmpty || !(c.peek 0 = ' ' || isBreakOrEnd (c.peek 0)) then .error .badDirective
  else if String.ofList name = "YAML" then
    let (written, c) := c.skipSpaces.span fun x => !isBreakOrEnd x && x ≠ ' '
    match version? written with
    | some major =>
      let c ← c.restOfLine .badDirective
      return { (s.emit (.directive (some major))).moveTo c with keyAllowed := false }
    | none => .error .badDirective
  else
    let c := c.skip (!isBreakOrEnd ·)
    return { (s.emit (.directive none)).moveTo c.skipBreak with keyAllowed := false }

/-! ### Scalars -/

def quotedScalar (s : Scanner) : Except Fault Scanner := do
  let s ← s.saveKey
  let (text, c) ← s.cursor.quoted
  return { (s.emit (.scalar text false)).moveTo c with keyAllowed := false }

def blockScalar (s : Scanner) : Except Fault Scanner := do
  let s ← s.dropKey
  let (text, c) ← s.cursor.block s.indent
  return { (s.emit (.scalar text false)).moveTo c with keyAllowed := true }

def plainScalar (s : Scanner) : Except Fault Scanner := do
  let s ← s.saveKey
  let p := s.cursor.plain s.inFlow (s.indent + 1)
  return { (s.emit (.scalar (String.ofList p.text) true)).moveTo p.cursor with
    keyAllowed := p.atLineStart }

/-- Is the colon here a sign? `afterValue` says that another one stands right before it. -/
def isValue (s : Scanner) (afterValue : Bool) : Bool :=
  let ends := isEndOrBlank (s.cursor.peek 1)
  match s.flow with
  | [] => ends
  | false :: _ => ends
  | true :: _ => ends || !afterValue

/-- The blanks and signs that begin no plain scalar, or only before a character that is not blank. -/
def signs : List Char :=
  [' ', '\t', '-', '?', ':', ',', '[', ']', '{', '}', '#', '&', '*', '!', '|', '>', '\'',
    '"', '%', '@', '\x60']

def startsPlain (s : Scanner) : Bool :=
  let x := s.cursor.peek 0
  let y := s.cursor.peek 1
  if !(isBreakOrEnd x || signs.contains x) then true
  else if x = ':' && s.inFlow && y ≠ ' ' && y ≠ '\t' then true
  else !isEndOrBlank y && (x = '-' || (!s.inFlow && (x = '?' || x = ':')))

/-- Reads the token that begins here. -/
def token (s : Scanner) (afterValue : Bool) : Except Fault Scanner :=
  let x := s.cursor.peek 0
  let ends := isEndOrBlank (s.cursor.peek 1)
  if x = '\x00' then s.finish
  else if x = '%' && s.cursor.column = 0 then s.directive
  else if s.cursor.atMarker '-' then s.documentMark .documentStart
  else if s.cursor.atMarker '.' then s.documentMark .documentEnd
  else if x = '[' then s.openFlow false
  else if x = '{' then s.openFlow true
  else if x = ']' then s.closeFlow .flowListEnd
  else if x = '}' then s.closeFlow .flowMappingEnd
  else if x = ',' then s.flowEntry
  else if x = '-' && ends then s.blockEntry
  else if x = '?' && (s.inFlow || ends) then s.explicitKey
  else if x = ':' && s.isValue afterValue then s.value
  else if x = '*' then s.named .alias
  else if x = '&' then s.named .anchor
  else if x = '!' then s.tag
  else if (x = '|' || x = '>') && !s.inFlow then s.blockScalar
  else if x = '\'' || x = '"' then s.quotedScalar
  else if s.startsPlain then s.plainScalar
  else .error .badStart

/-- Reads tokens until the document is at its end. -/
def run : Nat → Scanner → Except Fault (List Token)
  | 0, _ => .error .unexpected
  | fuel + 1, s => do
    let s ← s.dropStale
    let afterValue := !s.keys.isEmpty && s.tokens.back? == some .value
    let s ← (s.skipBlanks (s.cursor.rest.length + 1)).dropStale
    let s ← (s.unwind s.cursor.column).token afterValue
    if s.tokens.back? == some .streamEnd then return s.tokens.toList else run fuel s

end Scanner

/-- The tokens of a document. -/
def Token.scan (text : String) : Except Fault (List Token) :=
  let cs := text.toList
  if !cs.all isAllowed then .error .unprintable
  else (Scanner.start cs).skipMark.run (cs.length + 2)

end Stencil.Yaml
