import Stencil.Expr.Spec
import Stencil.Text.Markup

/-!
# Filling a text by percent signs

A percent sign with a type letter stands for the next argument, or for an entry of a mapping if a key
follows the sign in parentheses. Between the sign and the letter may stand flags, a width and a precision.
A doubled sign stands for itself.
-/
namespace Stencil.Expr

namespace Percent

/-- A width or a precision; a star takes it from the arguments. -/
inductive Amount where
  | none
  | given (n : Nat)
  | star
  deriving DecidableEq, Repr

structure Directive where
  key : Option String
  left : Bool
  plus : Bool
  blank : Bool
  alternate : Bool
  zero : Bool
  width : Amount
  precision : Amount
  /-- The type letter and its place; nothing if the text ends before it. -/
  type : Option (Char × Nat)
  deriving DecidableEq, Repr

inductive Piece where
  | char (c : Char)
  | directive (d : Directive)
  | openKey
  deriving DecidableEq, Repr

/-- The key up to the parenthesis that closes it, and the rest. `depth` counts open ones. -/
def readKey? : Nat → List Char → Option (List Char × List Char)
  | _, [] => none
  | depth, c :: cs =>
    if c = ')' && depth = 0 then some ([], cs)
    else
      let depth := if c = '(' then depth + 1 else if c = ')' then depth - 1 else depth
      (readKey? depth cs).map fun (key, rest) => (c :: key, rest)

def isFlag (c : Char) : Bool := "-+ #0".toList.contains c

def readAmount : List Char → Amount × List Char
  | '*' :: rest => (.star, rest)
  | cs =>
    let digits := cs.takeWhile Char.isDigit
    if digits.isEmpty then (.none, cs)
    else (.given (Decimal.ofDigits 10 digits), cs.dropWhile Char.isDigit)

def readPrecision : List Char → Amount × List Char
  | '.' :: rest =>
    match readAmount rest with
    | (.none, rest) => (.given 0, rest)
    | found => found
  | cs => (.none, cs)

/-- Size letters mean nothing. -/
def dropSize : List Char → List Char
  | c :: rest => if c = 'h' || c = 'l' || c = 'L' then rest else c :: rest
  | [] => []

/-- A directive without its percent sign. `size` is the length of the whole text. -/
def readDirective (size : Nat) (key : Option String) (cs : List Char) : Directive × List Char :=
  let flags := cs.takeWhile isFlag
  let (width, rest) := readAmount (cs.dropWhile isFlag)
  let (precision, rest) := readPrecision rest
  let rest := dropSize rest
  let directive (type : Option (Char × Nat)) : Directive :=
    { key, left := flags.contains '-', plus := flags.contains '+', blank := flags.contains ' '
      alternate := flags.contains '#', zero := flags.contains '0', width, precision, type }
  match rest with
  | [] => (directive none, [])
  | c :: rest => (directive (some (c, size - rest.length - 1)), rest)

def pieces (size : Nat) : Nat → List Char → List Piece
  | 0, _ | _, [] => []
  | fuel + 1, '%' :: '%' :: rest => .char '%' :: pieces size fuel rest
  | fuel + 1, '%' :: '(' :: rest =>
    match readKey? 0 rest with
    | none => [.openKey]
    | some (key, rest) =>
      let (d, rest) := readDirective size (some (String.ofList key)) rest
      .directive d :: pieces size fuel rest
  | fuel + 1, '%' :: rest =>
    let (d, rest) := readDirective size none rest
    .directive d :: pieces size fuel rest
  | fuel + 1, c :: rest => .char c :: pieces size fuel rest

/-- What the directives draw from: the arguments left, and the mapping that keys refer to. -/
structure Supply where
  arguments : List Value
  mapping : Option Value

abbrev Draw (α : Type) := StateT Supply Result α

def next : Draw Value := do
  let supply ← get
  match supply.arguments with
  | [] => throw (.raised .type "not enough arguments for format string")
  | v :: rest =>
    set { supply with arguments := rest }
    return v

/-- The entry of a mapping. -/
def entry (mapping : Value) (key : String) : Result Value :=
  match mapping with
  | .dict entries =>
    match Value.entryFor? (.text key) entries with
    | some v => .ok v
    | none => .error (.raised .key (Text.quote key))
  | .absent a => .error a.failure
  | v => typeError s!"{v.typeName} indices must be integers or slices, not str"

/-- A width or a precision. A star draws an integer; an argument that is to be escaped is none. `tooBig` is
the message for digits from `limit` on, `checked` refuses integers that are drawn. -/
def amount (escaped : Bool) (limit : Nat) (tooBig : String) (checked : Int → Result Int) :
    Amount → Draw (Option Int)
  | .none => return none
  | .given n => if n < limit then return some n else throw (.raised .value tooBig)
  | .star => do
    match escaped, (← next).int? with
    | false, some n => return some (← checked n)
    | _, _ => throw (.raised .type "* wants int")

/-- The types that show integers in bases other than ten. -/
def isOtherBase (type : Char) : Bool := "oxX".toList.contains type

def notNumber {α : Type} (type : Char) (given : String) : Result α :=
  let wanted := if isOtherBase type then "an integer" else "a real number"
  typeError s!"%{type} format: {wanted} is required, not {given}"

/-- What messages call an argument that is to be escaped. -/
def escapedType : String := "_MarkupEscapeHelper"

/-- The integer that a type for integers shows; the types in other bases take nothing else. -/
def integerFor (type : Char) : Value → Result Int
  | .absent a => .error a.failure
  | .float x => if isOtherBase type then notNumber type (Value.float x).typeName else intOfFloat x
  | v =>
    match v.int? with
    | some n => .ok n
    | none => notNumber type v.typeName

/-- The integer that markup shows for an argument: it is made of a text, too, but not in other bases. -/
def escapedIntegerFor (type : Char) (v : Value) : Result Int :=
  if isOtherBase type then notNumber type escapedType
  else
    match v.makeInt with
    | .error (.raised .type _) => notNumber type escapedType
    | r => r

def floatFor : Value → Result Float
  | .absent a => .error a.failure
  | v =>
    match v.toFloat? with
    | some x => x
    | none => typeError s!"must be real number, not {v.typeName}"

/-- Digits with at least `precision` of them; the sign apart. -/
def integerText (type : Char) (precision : Nat) (n : Int) : Result (Bool × String) := do
  let base := if type == 'o' then 8 else if type == 'x' || type == 'X' then 16 else 10
  if base == 10 then
    let _ ← intText n
  let digits := Nat.toDigits base n.natAbs
  let digits := if type == 'X' then digits.map Char.toUpper else digits
  return (decide (n < 0), Decimal.padLeft precision (String.ofList digits))

def floatText (type : Char) (precision : Nat) (alternate : Bool) (x : Float) : Bool × String :=
  let body :=
    match Decimal.fraction? x with
    | some (p, q) => Spec.floatBody type.toLower precision alternate false p.natAbs q
    | none => if x == x then "inf" else "nan"
  (isNegative x && x == x, if type.isUpper then Spec.upperText body else body)

def charFor (v : Value) : Result String :=
  match v.text?, v.int? with
  | some s, _ => if s.length = 1 then .ok s else typeError "%c requires int or char"
  | _, some n =>
    if n < 0 || n ≥ 0x110000 then overflow "%c arg not in range(0x110000)"
    else .ok (Char.ofNat n.toNat).toString
  | _, _ => typeError "%c requires int or char"

/-- Only common characters; all others as escapes. -/
def asciiOnly (s : String) : String :=
  String.ofList (s.toList.flatMap fun c =>
    if c.toNat < 0x80 then [c]
    else if c.toNat < 0x100 then '\\' :: 'x' :: Text.hexDigits 2 c.toNat
    else if c.toNat < 0x10000 then '\\' :: 'u' :: Text.hexDigits 4 c.toNat
    else '\\' :: 'U' :: Text.hexDigits 8 c.toNat)

/-- A converted value: what stands before the zeros that may fill it, and the rest. -/
structure Shown where
  head : String
  body : String
  numeric : Bool

def plainText (escaped : Bool) (precision : Option Nat) (s : String) : Shown :=
  let s := if escaped then Text.escapeMarkup s else s
  ⟨"", match precision with
    | some n => String.ofList (s.toList.take n)
    | none => s, false⟩

def signed (d : Directive) (mark : String) (shown : Bool × String) : Shown :=
  let sign := if shown.1 then "-" else if d.plus then "+" else if d.blank then " " else ""
  ⟨sign ++ mark, shown.2, true⟩

def convert (escaped : Bool) (d : Directive) (precision : Option Nat) (type : Char) (place : Nat)
    (v : Value) : Result Shown := do
  match type with
  | 's' =>
    match v with
    | .markup s => return plainText false precision s
    | v => return plainText escaped precision (← v.toText)
  | 'r' => return plainText escaped precision (← v.literal)
  | 'a' => return plainText escaped precision (asciiOnly (← v.literal))
  | 'c' =>
    if escaped then typeError "%c requires int or char"
    return ⟨"", ← charFor v, false⟩
  | _ =>
    if "diuoxX".toList.contains type then
      let mark := if d.alternate && isOtherBase type then "0" ++ type.toString else ""
      let n ← if escaped then escapedIntegerFor type v else integerFor type v
      return signed d mark (← integerText type (precision.getD 0) n)
    else if "eEfFgG".toList.contains type then
      let x ← if escaped then v.makeFloat else floatFor v
      return signed d "" (floatText type (precision.getD 6) d.alternate x)
    else
      let shown := if 31 ≤ type.toNat && type.toNat ≤ 126 then type else '?'
      let code := String.ofList (Nat.toDigits 16 type.toNat)
      valueError s!"unsupported format character '{shown}' (0x{code}) at index {place}"

/-- Fills up to the width: on the right if asked for, else with zeros inside or blanks in front. -/
def lay (left zero : Bool) (width : Nat) (s : Shown) : String :=
  let n := width - s.head.length - s.body.length
  let blanks := String.ofList (List.replicate n ' ')
  if left then s.head ++ s.body ++ blanks
  else if zero && s.numeric then s.head ++ Decimal.zeros n ++ s.body
  else blanks ++ s.head ++ s.body

/-- Fills one directive. The least width has no opposite and fills nothing. -/
def fillDirective (escaped : Bool) (d : Directive) : Draw String := do
  if let some key := d.key then
    match (← get).mapping with
    | none => throw (.raised .type "format requires a mapping")
    | some mapping =>
      let v ← entry mapping key
      modify fun supply => { supply with arguments := [v] }
  let width := (← amount escaped sizeLimit "width too big" sizeOf d.width).getD 0
  let precision := (← amount escaped smallLimit "precision too big" smallOf d.precision).map Int.toNat
  match d.type with
  | none => throw (.raised .value "incomplete format")
  | some (type, place) =>
    let v ← next
    let shown ← convert escaped d precision type place v
    let filled := if fits sizeLimit (-width) then width.natAbs else 0
    if filled ≥ roomLimit then noRoom
    return lay (d.left || width < 0) d.zero filled shown

def fillAll (escaped : Bool) : List Piece → Draw (List String)
  | [] => return []
  | .char c :: rest => return c.toString :: (← fillAll escaped rest)
  | .openKey :: _ => do
    if (← get).mapping.isNone then throw (.raised .type "format requires a mapping")
    throw (.raised .value "incomplete format key")
  | .directive d :: rest => do
    let s ← fillDirective escaped d
    return s :: (← fillAll escaped rest)

/-- Can keys refer to entries of the value? -/
def isMapping : Value → Bool
  | .list _ | .dict _ | .absent _ | .template => true
  | _ => false

def fill (escaped : Bool) (s : String) (argument : Value) : Result String := do
  let arguments := match argument with
    | .tuple xs => xs
    | v => [v]
  let mapping := if isMapping argument then some argument else none
  let (filled, supply) ← (fillAll escaped (pieces s.length s.length s.toList)).run
    ⟨arguments, mapping⟩
  if mapping.isNone && !supply.arguments.isEmpty then
    typeError "not all arguments converted during string formatting"
  return String.join filled

end Percent

end Stencil.Expr
