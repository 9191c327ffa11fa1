import Stencil.Expr.Number

/-!
# Laying out a value in a field

A field may say how its value is filled up to a width, aligned, signed, grouped and written: the fill and
the alignment, the sign, `#`, `0`, the width, the grouping mark, the precision and the type, in this order
and each of them optional.
-/
namespace Stencil.Expr

structure Spec where
  fill : Char
  align : Char
  sign : Option Char
  negativeZero : Bool
  alternate : Bool
  width : Nat
  grouping : Option Char
  precision : Option Nat
  type : Option Char
  deriving DecidableEq, Repr

namespace Spec

def isAlign (c : Char) : Bool := c == '<' || c == '>' || c == '=' || c == '^'

/-- A number at the head, if there is one. -/
def readCount (cs : List Char) : Result (Option Nat × List Char) :=
  let digits := cs.takeWhile Text.isDecimal
  let n := Decimal.ofDigits 10 (digits.map Decimal.commonDigit)
  if digits.isEmpty then .ok (none, cs)
  else if n ≥ sizeLimit then valueError "Too many decimal digits in format string"
  else .ok (some n, cs.dropWhile Text.isDecimal)

def takeIf (p : Char → Bool) : List Char → Option Char × List Char
  | c :: cs => if p c then (some c, cs) else (none, c :: cs)
  | [] => (none, [])

/-- Fill and alignment at the head. -/
def readAlign : List Char → Option Char × Option Char × List Char
  | c :: d :: rest =>
    if isAlign d then (some c, some d, rest)
    else if isAlign c then (none, some c, d :: rest)
    else (none, none, c :: d :: rest)
  | [c] => if isAlign c then (none, some c, []) else (none, none, [c])
  | [] => (none, none, [])

/-- The grouping mark. A mark that is written twice leaves the second one for what comes next. -/
def readGrouping : List Char → Result (Option Char × List Char)
  | ',' :: '_' :: _ | '_' :: ',' :: _ => valueError "Cannot specify both ',' and '_'."
  | cs => .ok (takeIf (fun c => c == ',' || c == '_') cs)

def readPrecision : List Char → Result (Option Nat × List Char)
  | '.' :: rest => do
    match ← readCount rest with
    | (none, _) => valueError "Format specifier missing precision"
    | (some n, rest) => .ok (some n, rest)
  | cs => .ok (none, cs)

/-- May a type stand beside a grouping mark? -/
def groups (mark : Char) (type : Option Char) : Bool :=
  match type with
  | none => true
  | some t => "defgEG%F".toList.contains t || (mark == '_' && "boxX".toList.contains t)

/-- How a message names a type. -/
def typeText (t : Char) : String :=
  if 32 < t.toNat && t.toNat < 128 then t.toString
  else "\\x" ++ String.ofList (Nat.toDigits 16 t.toNat)

def read (s typeName : String) (align : Char) : Result Spec := do
  let (fill, given, rest) := readAlign s.toList
  let (sign, rest) := takeIf (fun c => c == '+' || c == '-' || c == ' ') rest
  let (negativeZero, rest) := takeIf (· == 'z') rest
  let (alternate, rest) := takeIf (· == '#') rest
  let (zero, rest) := if fill.isNone then takeIf (· == '0') rest else (none, rest)
  let (width, rest) ← readCount rest
  let (grouping, rest) ← readGrouping rest
  let (precision, rest) ← readPrecision rest
  let type ← match rest with
    | [] => pure none
    | [t] => pure (some t)
    | _ => valueError s!"Invalid format specifier '{s}' for object of type '{typeName}'"
  let kind := if align == '<' && type.isNone then some 's' else type
  if let some mark := grouping then
    if !groups mark kind then
      let shown := typeText (kind.getD 's')
      valueError s!"Cannot specify '{mark}' with '{shown}'."
  let zeroAlign := if zero.isSome && align == '>' then '=' else align
  return { fill := fill.getD (if zero.isSome then '0' else ' ')
           align := given.getD zeroAlign
           sign, negativeZero := negativeZero.isSome, alternate := alternate.isSome
           width := width.getD 0, grouping, precision, type }

def filler (spec : Spec) (n : Nat) : String := String.ofList (List.replicate n spec.fill)

/-- Fills text up to the width. -/
def pad (spec : Spec) (s : String) : String :=
  let n := spec.width - s.length
  match spec.align with
  | '<' => s ++ spec.filler n
  | '^' => spec.filler (n / 2) ++ s ++ spec.filler (n - n / 2)
  | _ => spec.filler n ++ s

def unknownType {α : Type} (t : Char) (typeName : String) : Result α :=
  let shown := typeText t
  valueError s!"Unknown format code '{shown}' for object of type '{typeName}'"

def layText (spec : Spec) (s : String) : Result String := do
  match spec.type with
  | none | some 's' => pure ()
  | some t => unknownType t "str"
  if spec.sign == some ' ' then valueError "Space not allowed in string format specifier"
  if spec.sign.isSome then valueError "Sign not allowed in string format specifier"
  if spec.negativeZero then
    valueError "Negative zero coercion (z) not allowed in string format specifier"
  if spec.alternate then
    valueError "Alternate form (#) not allowed in string format specifier"
  if spec.align == '=' then valueError "'=' alignment not allowed in string format specifier"
  return spec.pad (match spec.precision with
    | some n => String.ofList (s.toList.take n)
    | none => s)

/-- A number in pieces: sign and base, the digits that are grouped, and the rest. -/
structure Numeral where
  head : String
  digits : List Char
  tail : String

/-- Digits from the last to the first, with a mark after every `size` of them, and zeros until they take
`width` places. -/
def group (mark : Char) (size : Nat) : Nat → List Char → Nat → List Char
  | 0, digits, _ => digits
  | fuel + 1, digits, width =>
    let n := min size (max (max digits.length width) 1)
    let block := digits.take n ++ List.replicate (n - digits.length) '0'
    let rest := digits.drop n
    if rest.isEmpty && width ≤ n then block
    else block ++ mark :: group mark size fuel rest (width - n - 1)

def layNumeral (spec : Spec) (groupSize : Nat) (n : Numeral) : String :=
  let fixed := n.head.length + n.tail.length
  let wanted := if spec.fill == '0' && spec.align == '=' then spec.width - fixed else 0
  let digits :=
    match n.digits, spec.grouping with
    | [], _ => []
    | ds, some mark => (group mark groupSize (ds.length + wanted) ds.reverse wanted).reverse
    | ds, none => List.replicate (wanted - ds.length) '0' ++ ds
  let body := String.ofList digits ++ n.tail
  if spec.align == '=' then
    n.head ++ spec.filler (spec.width - n.head.length - body.length) ++ body
  else spec.pad (n.head ++ body)

def signText (spec : Spec) (negative : Bool) : String :=
  if negative then "-"
  else
    match spec.sign with
    | some '+' => "+"
    | some ' ' => " "
    | _ => ""

def upperText (s : String) : String := String.ofList (s.toList.map Char.toUpper)

/-- Splits the digits off that begin an unsigned number. -/
def numeral (head s : String) : Numeral :=
  ⟨head, s.toList.takeWhile Char.isDigit, String.ofList (s.toList.dropWhile Char.isDigit)⟩

/-- The text of a number with a point after its whole digits, if it has none. -/
def withPoint (s : String) : String :=
  if s.contains '.' then s
  else
    String.ofList (s.toList.takeWhile Char.isDigit) ++ "."
      ++ String.ofList (s.toList.dropWhile Char.isDigit)

/-- A number that is not negative, in the notation of a type. `alternate` keeps the point and the zeros
behind it; `fraction` asks for a digit behind the point unless there is an exponent. -/
def floatBody (kind : Char) (precision : Nat) (alternate fraction : Bool) (n d : Nat) : String :=
  let s :=
    match kind with
    | 'f' => Decimal.fixedText n d precision
    | 'e' => Decimal.scientificText n d precision
    | _ =>
      let digits := max precision 1
      let s := Decimal.generalText n d digits (digits - (if fraction then 2 else 1)) alternate
      if fraction && !s.contains '.' && !s.contains 'e' then s ++ ".0" else s
  if alternate then withPoint s else s

def layFloat (spec : Spec) (typeName : String) (x : Float) : Result String := do
  let type := spec.type.getD ' '
  if !" eEfFgGn%".toList.contains type then unknownType type typeName
  if spec.precision.any (· ≥ smallLimit) then valueError "precision too big"
  let x := if type == '%' then x * 100 else x
  let kind := if type == '%' then 'f' else if type == 'n' then 'g' else type.toLower
  let body :=
    match Decimal.Binary.ofFloat x, Decimal.fraction? x with
    | .nan, _ => "nan"
    | .infinite _, _ => "inf"
    | _, some (p, q) =>
      match kind, spec.precision with
      | ' ', none =>
        let s := Decimal.floatText Decimal.plain x.abs
        if spec.alternate then withPoint s else s
      | ' ', some p' => floatBody 'g' p' spec.alternate true p.natAbs q
      | k, p' => floatBody k (p'.getD 6) spec.alternate false p.natAbs q
    | _, none => ""
  let body := if type.isUpper then upperText body else body
  let isZero := isFinite x && body.toList.all fun c => !c.isDigit || c == '0'
  let negative := isNegative x && !(spec.negativeZero && isZero)
  let body := if type == '%' then body ++ "%" else body
  return spec.layNumeral 3 (numeral (spec.signText negative) body)

/-- An integer in base 2, 8, 10 or 16. -/
def layBased (spec : Spec) (type : Char) (n : Int) : String :=
  let base := match type with
    | 'b' => 2
    | 'o' => 8
    | 'x' | 'X' => 16
    | _ => 10
  let digits := Nat.toDigits base n.natAbs
  let digits := if type == 'X' then digits.map Char.toUpper else digits
  let mark := if spec.alternate && base != 10 then "0" ++ type.toString else ""
  spec.layNumeral (if base = 10 then 3 else 4) ⟨spec.signText (decide (n < 0)) ++ mark, digits, ""⟩

def layInt (spec : Spec) (typeName : String) (n : Int) : Result String := do
  let type := spec.type.getD 'd'
  if "eEfFgG%".toList.contains type then spec.layFloat typeName (← floatOfInt n)
  else
    if !"bcdnoxX".toList.contains type then unknownType type typeName
    if spec.precision.isSome then
      valueError "Precision not allowed in integer format specifier"
    if spec.negativeZero then
      valueError "Negative zero coercion (z) not allowed in integer format specifier"
    if type == 'c' then
      if spec.sign.isSome then valueError "Sign not allowed with integer format specifier 'c'"
      if spec.alternate then
        valueError "Alternate form (#) not allowed with integer format specifier 'c'"
      if n.natAbs ≥ Nat.pow 2 63 then overflow "Python int too large to convert to C long"
      if n < 0 || n ≥ 0x110000 then overflow "%c arg not in range(0x110000)"
      return spec.layNumeral 3 ⟨"", [], (Char.ofNat n.toNat).toString⟩
    let _ ← intText n
    return spec.layBased type n

end Spec

/-- Lays out a value if there is room for it. -/
def Spec.lay (spec : Spec) (layOut : Spec → Result String) : Result String :=
  if spec.width < roomLimit then layOut spec
  else do
    let _ ← layOut { spec with width := 0 }
    noRoom

/-- A value as a field shows it. -/
def Value.inField (v : Value) (spec : String) : Result String :=
  if spec = "" then v.toText
  else
    match v with
    | .text s | .markup s => do (← Spec.read spec "str" '<').lay (·.layText s)
    | .bool b => do (← Spec.read spec "bool" '>').lay (·.layInt "bool" (if b then 1 else 0))
    | .int n => do (← Spec.read spec "int" '>').lay (·.layInt "int" n)
    | .float x => do (← Spec.read spec "float" '>').lay (·.layFloat "float" x)
    | v => typeError s!"unsupported format string passed to {v.typeName}.__format__"

end Stencil.Expr
