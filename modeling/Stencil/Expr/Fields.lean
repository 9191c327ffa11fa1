import Stencil.Expr.Access
import Stencil.Expr.Percent
import Stencil.Expr.Spec

/-!
# Filling a text by fields in braces

A field names an argument by its place, by its name or by neither, then attributes and items of it, then a
conversion and a layout. Layouts may hold fields themselves, two levels deep. Doubled braces stand for
themselves. What comes before a mistake in the text is filled in first, so an argument that is missing
there is reported instead.
-/
namespace Stencil.Expr

namespace Fields

structure Field where
  name : List Char
  conversion : Option Char
  layout : List Char
  deriving DecidableEq, Repr

inductive Piece where
  | char (c : Char)
  | field (f : Field)
  | broken (message : String)
  deriving DecidableEq, Repr

/-- The name of a field, what ended it, and the rest. Brackets hide what would end it. -/
def readName (bracketed : Bool) : List Char → Except String (List Char × Char × List Char)
  | [] => .error "expected '\x7d' before end of string"
  | c :: cs => do
    if bracketed then
      let (name, stop, rest) ← readName (c != ']') cs
      .ok (c :: name, stop, rest)
    else if c = '{' then .error "unexpected '\x7b' in field name"
    else if c = '}' || c = ':' || c = '!' then .ok ([], c, cs)
    else
      let (name, stop, rest) ← readName (c == '[') cs
      .ok (c :: name, stop, rest)

/-- A layout up to the brace that closes the field. -/
def readLayout : Nat → List Char → Except String (List Char × List Char)
  | _, [] => .error "unmatched '\x7b' in format spec"
  | depth, c :: cs =>
    if c = '}' && depth = 0 then .ok ([], cs)
    else do
      let depth := if c = '{' then depth + 1 else if c = '}' then depth - 1 else depth
      let (layout, rest) ← readLayout depth cs
      .ok (c :: layout, rest)

/-- A field after its opening brace, and the rest. -/
def readField (cs : List Char) : Except String (Field × List Char) := do
  let (name, stop, rest) ← readName false cs
  if stop = '}' then return (⟨name, none, []⟩, rest)
  else if stop = ':' then
    let (layout, rest) ← readLayout 0 rest
    return (⟨name, none, layout⟩, rest)
  else
    match rest with
    | [] => .error "end of string while looking for conversion specifier"
    | [_] => .error "unmatched '\x7b' in format spec"
    | c :: '}' :: rest => return (⟨name, some c, []⟩, rest)
    | c :: ':' :: rest =>
      let (layout, rest) ← readLayout 0 rest
      return (⟨name, some c, layout⟩, rest)
    | _ => .error "expected ':' after conversion specifier"

def pieces : Nat → List Char → List Piece
  | 0, _ | _, [] => []
  | fuel + 1, '{' :: '{' :: rest => .char '{' :: pieces fuel rest
  | fuel + 1, '}' :: '}' :: rest => .char '}' :: pieces fuel rest
  | _, ['{'] => [.broken "Single '\x7b' encountered in format string"]
  | _, '}' :: _ => [.broken "Single '\x7d' encountered in format string"]
  | fuel + 1, '{' :: rest =>
    match readField rest with
    | .ok (f, rest) => .field f :: pieces fuel rest
    | .error message => [.broken message]
  | fuel + 1, c :: rest => .char c :: pieces fuel rest

/-! ### What a field refers to -/

def decimalIndex (cs : List Char) : Result (Option Int) :=
  if cs.isEmpty || !cs.all Text.isDecimal then .ok none
  else
    let n := Decimal.ofDigits 10 (cs.map Decimal.commonDigit)
    if n ≥ Nat.pow 2 63 then valueError "Too many decimal digits in format string" else .ok (some n)

/-- A key in a field: a number if it is written like one. -/
def keyOf (cs : List Char) : Result Value := do
  match ← decimalIndex cs with
  | some n => return .int n
  | none => return .text (String.ofList cs)

def startsPart (c : Char) : Bool := c == '.' || c == '['

/-- The attributes and items of `v` that the rest of a name asks for. -/
def follow : Nat → List Char → Value → Result Value
  | 0, _, v | _, [], v => .ok v
  | fuel + 1, '.' :: rest, v => do
    let name := rest.takeWhile (!startsPart ·)
    if name.isEmpty then valueError "Empty attribute in format string"
    follow fuel (rest.dropWhile (!startsPart ·)) (← v.lookUpAttribute (String.ofList name))
  | fuel + 1, '[' :: rest, v => do
    match rest.dropWhile (· != ']') with
    | [] => valueError "Missing ']' in format string"
    | _ :: after =>
      let name := rest.takeWhile (· != ']')
      let key ← keyOf name
      if name.isEmpty then valueError "Empty attribute in format string"
      follow fuel after (← v.lookUpItem key)
  | _, _, _ => valueError "Only '.' or '[' may follow ']' in format field specifier"

/-- What fields refer to: arguments by place, and a mapping for names. -/
structure Supply where
  arguments : List Value
  named : Value

/-- Whether places are counted or given; the two do not mix. -/
inductive Numbering where
  | counted (next : Nat)
  | given
  deriving DecidableEq, Repr

def mixed {α : Type} : Result α :=
  valueError "cannot switch from manual field specification to automatic field numbering"

/-- The name with its place filled in, and the numbering after it. -/
def number (numbering : Numbering) (name : List Char) : Result (List Char × Numbering) :=
  match name, numbering with
  | [], .counted n => .ok (Nat.toDigits 10 n, .counted (n + 1))
  | [], .given => mixed
  | name, .counted (n + 1) => if name.all Text.isDigitLike then mixed else .ok (name, .counted (n + 1))
  | name, numbering => .ok (name, if name.all Text.isDigitLike then .given else numbering)

def resolve (supply : Supply) (name : List Char) : Result Value := do
  let first := name.takeWhile (!startsPart ·)
  let v ← match ← decimalIndex first with
    | some n =>
      match supply.arguments[n.toNat]? with
      | some v => pure v
      | none => .error (.raised .index "tuple index out of range")
    | none => supply.named.subscript (.text (String.ofList first))
  follow name.length (name.dropWhile (!startsPart ·)) v

def convert (v : Value) : Option Char → Result Value
  | none => .ok v
  | some 's' => do return .text (← v.toText)
  | some 'r' => do return .text (← v.literal)
  | some 'a' => do return .text (Percent.asciiOnly (← v.literal))
  | some c => valueError s!"Unknown conversion specifier {c}"

/-- The text of a value in a field; in markup it is escaped, unless it is markup itself. -/
def show? (escaped : Bool) (v : Value) (layout : String) : Result String :=
  match escaped, v with
  | true, .markup s =>
    if layout = "" then .ok s else valueError "Unsupported format specification for Markup."
  | true, v => do return Text.escapeMarkup (← v.inField layout)
  | false, v => v.inField layout

/-- Fills the pieces one by one. `inner` fills the layout of a field. -/
def fillPieces (escaped : Bool) (supply : Supply)
    (inner : Numbering → List Char → Result (List String × Numbering)) :
    Numbering → List Piece → Result (List String × Numbering)
  | numbering, [] => .ok ([], numbering)
  | _, .broken message :: _ => valueError message
  | numbering, .char c :: rest => do
    let (filled, numbering) ← fillPieces escaped supply inner numbering rest
    return (c.toString :: filled, numbering)
  | numbering, .field f :: rest => do
    let (name, numbering) ← number numbering f.name
    let v ← convert (← resolve supply name) f.conversion
    let (layout, numbering) ← inner numbering f.layout
    let s ← show? escaped v (String.join layout)
    let (filled, numbering) ← fillPieces escaped supply inner numbering rest
    return (s :: filled, numbering)

/-- Fills a text whose layouts may hold fields `depth` levels deep. -/
def fillText (escaped : Bool) (supply : Supply) :
    Nat → Numbering → List Char → Result (List String × Numbering)
  | 0, _, _ => valueError "Max string recursion exceeded"
  | depth + 1, numbering, cs =>
    fillPieces escaped supply (fillText escaped supply depth) numbering (pieces cs.length cs)

def fill (escaped : Bool) (s : String) (supply : Supply) : Result String := do
  return String.join (← fillText escaped supply 3 (.counted 0) s.toList).1

end Fields

end Stencil.Expr
