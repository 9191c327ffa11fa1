import Stencil.Error

/-!
# A place in a document

What is still to be read, and where that is. Beyond the end a null character is seen; a document holds none.
-/
namespace Stencil.Yaml

/-- Why a document is refused. -/
inductive Fault where
  | unprintable
  | badStart
  | missingColon
  | misplaced (what : String)
  | badDirective
  | badName
  | badTag
  | badHeader
  | badIndentation
  | unclosedQuote
  | badEscape
  | trailingContent
  | unexpected
  | severalDocuments
  | unknownAlias (name : String)
  | badKey
  | badMerge
  | unknownTag
  | repeatedKey
  | badPair
  | badBinary
  /-- The notation is kept, but the data that it spells do not exist. -/
  | noData (fault : DataFault) (detail : String)
  deriving DecidableEq, Repr

def Fault.detail : Fault → String
  | unprintable => "special characters are not allowed"
  | badStart => "found a character that cannot start any token"
  | missingColon => "could not find expected ':'"
  | misplaced what => what ++ " are not allowed here"
  | badDirective => "found a malformed directive"
  | badName => "expected alphabetic or numeric character"
  | badTag => "found a malformed tag"
  | badHeader => "expected chomping or indentation indicators"
  | badIndentation => "more indented follow up line than first in a block scalar"
  | unclosedQuote => "found unexpected end of stream"
  | badEscape => "found unknown escape character"
  | trailingContent => "found non-comment content after document end marker"
  | unexpected => "found an unexpected token"
  | severalDocuments => "expected a single document in the stream"
  | unknownAlias name => "found undefined alias " ++ name
  | badKey => "found unhashable key"
  | badMerge => "expected a mapping or list of mappings for merging"
  | unknownTag => "could not determine a constructor for the tag"
  | repeatedKey => "found duplicate key\n"
  | badPair => "expected a mapping of length 1"
  | badBinary => "failed to decode base64 data"
  | noData _ detail => detail

/-! ### Classes of characters -/

def isBreak (c : Char) : Bool :=
  c = '\n' || c = '\r' || c = '\u0085' || c = '\u2028' || c = '\u2029'

def isBreakOrEnd (c : Char) : Bool := isBreak c || c = '\x00'

def isEndOrBlank (c : Char) : Bool := isBreakOrEnd c || c = ' ' || c = '\t'

/-- May the character stand in a document? -/
def isAllowed (c : Char) : Bool :=
  c = '\t' || c = '\n' || c = '\r' || (0x20 ≤ c.toNat && c.toNat ≤ 0x7E) || c = '\u0085' ||
    (0xA0 ≤ c.toNat && c.toNat ≤ 0xD7FF) || (0xE000 ≤ c.toNat && c.toNat ≤ 0xFFFD) ||
    0x10000 ≤ c.toNat

structure Cursor where
  rest : List Char
  index : Nat
  line : Nat
  column : Nat

namespace Cursor

def start (cs : List Char) : Cursor := ⟨cs, 0, 0, 0⟩

/-- The character `k` places ahead. -/
def peek (c : Cursor) (k : Nat) : Char := (c.rest.drop k).headD '\x00'

/-- Goes on by one character. Lines are counted by line feeds and carriage returns alone, though other
characters end what stands on a line as well. -/
def step (c : Cursor) : Cursor :=
  match c.rest with
  | [] => c
  | x :: rest =>
    if x = '\n' || (x = '\r' && rest.head? ≠ some '\n') then ⟨rest, c.index + 1, c.line + 1, 0⟩
    else if x = '\ufeff' then ⟨rest, c.index + 1, c.line, c.column⟩
    else ⟨rest, c.index + 1, c.line, c.column + 1⟩

def advance (c : Cursor) : Nat → Cursor
  | 0 => c
  | n + 1 => c.step.advance n

/-- The characters up to the first that fails `p`, and the place there. -/
def span (p : Char → Bool) (c : Cursor) : List Char × Cursor :=
  let taken := c.rest.takeWhile p
  (taken, c.advance taken.length)

def skip (p : Char → Bool) (c : Cursor) : Cursor := (c.span p).2

def skipSpaces (c : Cursor) : Cursor := c.skip (· = ' ')

/-- The line end here as it counts in a text, and the place behind it. -/
def lineBreak? (c : Cursor) : Option (Char × Cursor) :=
  let x := c.peek 0
  if x = '\r' && c.peek 1 = '\n' then some ('\n', c.advance 2)
  else if x = '\n' || x = '\r' || x = '\u0085' then some ('\n', c.step)
  else if x = '\u2028' || x = '\u2029' then some (x, c.step)
  else none

/-- Skips a line end if there is one. -/
def skipBreak (c : Cursor) : Cursor := (c.lineBreak?.map (·.2)).getD c

/-- Do three of `x` stand here with nothing glued to them? -/
def atThree (c : Cursor) (x : Char) : Bool :=
  c.rest.take 3 == [x, x, x] && isEndOrBlank (c.peek 3)

/-- Does a line begin here with three of `x` and nothing glued to them? -/
def atMarker (c : Cursor) (x : Char) : Bool := c.column = 0 && c.atThree x

/-- Behind a line end inside a scalar: is the scalar cut off by a marker? -/
def atCut (c : Cursor) : Bool := c.atThree '-' || c.atThree '.'

/-- Skips spaces, a comment and a line end. -/
def restOfLine (flaw : Fault) (c : Cursor) : Except Fault Cursor :=
  let c := c.skipSpaces
  let c := if c.peek 0 = '#' then c.skip (!isBreakOrEnd ·) else c
  if isBreakOrEnd (c.peek 0) then .ok c.skipBreak else .error flaw

end Cursor

end Stencil.Yaml
