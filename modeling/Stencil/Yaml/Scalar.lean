import Stencil.Decimal.Read
import Stencil.Text.Case
import Stencil.Yaml.Cursor
import Stencil.Yaml.Data

/-!
# What plain scalars mean

A plain scalar is a number, a truth value, a date or nothing if it is written like one, and a text
otherwise. A scalar may be written like a number or a date and be none; then the document is refused.
-/
namespace Stencil.Yaml.Scalar

open Decimal (digitValue? ofDigits splitSign)

/-- The kinds of scalars. -/
inductive Kind where
  | null
  | bool
  | int
  | float
  | moment
  | merge
  | value
  | text
  | binary
  deriving DecidableEq, Repr

def isDigitOrBar (c : Char) : Bool := c.isDigit || c = '_'

/-- `e`, perhaps a sign, and digits. -/
def isExponent (signRequired : Bool) : List Char → Bool
  | [] => true
  | c :: rest =>
    let signed := rest.head? == some '-' || rest.head? == some '+'
    let ds := if signed then rest.tail else rest
    (c = 'e' || c = 'E') && (signed || !signRequired) && !ds.isEmpty && ds.all Char.isDigit

def isInfinity (cs : List Char) : Bool :=
  [".inf", ".Inf", ".INF"].contains (String.ofList cs)

/-- A number with a point or an exponent. -/
def isFloat (cs : List Char) : Bool :=
  let (_, body) := splitSign cs
  let whole := body.takeWhile isDigitOrBar
  let rest := body.dropWhile isDigitOrBar
  if [".nan", ".NaN", ".NAN"].contains (String.ofList cs) || isInfinity body then true
  else
    match body, rest with
    | '.' :: fraction, _ =>
      !(fraction.takeWhile isDigitOrBar).isEmpty &&
        isExponent true (fraction.dropWhile isDigitOrBar)
    | c :: _, '.' :: fraction =>
      c.isDigit && isExponent false (fraction.dropWhile isDigitOrBar) && !whole.isEmpty
    | c :: _, rest => c.isDigit && !rest.isEmpty && isExponent false rest
    | [], _ => false

def allOf (p : Char → Bool) (cs : List Char) : Bool := !cs.isEmpty && cs.all p

def isIn (base : Nat) (c : Char) : Bool := (digitValue? base c).isSome || c = '_'

/-- An integer in base ten, or in another base that its beginning names. -/
def isInt (cs : List Char) : Bool :=
  match (splitSign cs).2 with
  | '0' :: 'b' :: ds => allOf (isIn 2) ds
  | '0' :: 'o' :: ds => allOf (isIn 8) ds
  | '0' :: 'x' :: ds => allOf (isIn 16) ds
  | ds => allOf isDigitOrBar ds

/-- One or two digits at the head, and the rest. -/
def oneOrTwo? : List Char → Option (Nat × List Char)
  | a :: b :: rest =>
    if a.isDigit && b.isDigit then some (ofDigits 10 [a, b], rest)
    else if a.isDigit then some (ofDigits 10 [a], b :: rest)
    else none
  | [a] => if a.isDigit then some (ofDigits 10 [a], []) else none
  | [] => none

def two? : List Char → Option (Nat × List Char)
  | a :: b :: rest => if a.isDigit && b.isDigit then some (ofDigits 10 [a, b], rest) else none
  | _ => none

def after? (c : Char) : List Char → Option (List Char)
  | x :: rest => if x = c then some rest else none
  | [] => none

/-- Nothing, the letter for the zero meridian, or a distance from it in hours and minutes. Between those
stands a colon, which may be missing if `loose`. -/
def readZone? (loose : Bool) (cs : List Char) : Option (Option Zone) :=
  let written := cs.dropWhile fun c => c = ' ' || c = '\t'
  let zone (sign : Char) (hours minutes : Nat) : Option (Option Zone) :=
    let offset := (hours * 60 + minutes) * 60
    some (some ⟨if sign = '-' then -(offset : Int) else offset, String.ofList written⟩)
  match written with
  | [] => if cs.isEmpty then some none else none
  | ['Z'] => zone '+' 0 0
  | c :: rest =>
    if c = '-' || c = '+' then
      match oneOrTwo? rest with
      | some (hours, []) => zone c hours 0
      | some (hours, sign :: digits) =>
        match two? (if sign = ':' then digits else if loose then sign :: digits else []) with
        | some (minutes, []) => zone c hours minutes
        | _ => none
      | none => none
    else none

/-- The first six digits of a fraction, rounded by the seventh. -/
def microseconds (ds : List Char) : Nat :=
  let six := ofDigits 10 ((ds ++ List.replicate 6 '0').take 6)
  let n := if ds.length > 6 && (ds.drop 6).headD '0' > '4' then six + 1 else six
  if n > 999999 then 0 else n

/-- The separator between a date and a time. -/
def afterDate? : List Char → Option (List Char)
  | 'T' :: rest | 't' :: rest => some rest
  | cs =>
    let rest := cs.dropWhile fun c => c = ' ' || c = '\t'
    if rest.length < cs.length then some rest else none

/-- Year, month and day, and the rest. -/
def readDay? (number? : List Char → Option (Nat × List Char)) (cs : List Char) :
    Option (Date × List Char) := do
  let (month, rest) ← number? (← after? '-' (cs.drop 4))
  let (day, rest) ← number? (← after? '-' rest)
  if (cs.take 4).all Char.isDigit then return (⟨ofDigits 10 (cs.take 4), month, day⟩, rest) else none

/-- A date alone. Month and day have two digits each, unless `loose`. -/
def readDate? (loose : Bool) (cs : List Char) : Option Date :=
  match readDay? (if loose then oneOrTwo? else two?) cs with
  | some (d, []) => some d
  | _ => none

/-- A date with a time. -/
def readMoment? (loose : Bool) (cs : List Char) : Option Moment := do
  let (date, rest) ← readDay? oneOrTwo? cs
  let (hour, rest) ← oneOrTwo? (← afterDate? rest)
  let (minute, rest) ← two? (← after? ':' rest)
  let (second, rest) ← two? (← after? ':' rest)
  let (fraction, rest) := match rest with
    | '.' :: rest => (rest.takeWhile Char.isDigit, rest.dropWhile Char.isDigit)
    | rest => ([], rest)
  return ⟨date, hour, minute, second, microseconds fraction, ← readZone? loose rest⟩

/-- The kind of a plain scalar. -/
def kindOf (s : String) : Kind :=
  let cs := s.toList
  let startsLikeInt := match cs with
    | c :: _ => c.isDigit || c = '-' || c = '+'
    | [] => false
  if ["", "~", "null", "Null", "NULL"].contains s then .null
  else if ["true", "True", "TRUE", "false", "False", "FALSE"].contains s then .bool
  else if isFloat cs then .float
  else if startsLikeInt && isInt cs then .int
  else if s = "<<" then .merge
  else if s = "=" then .value
  else if (readDate? false cs).isSome || (readMoment? false cs).isSome then .moment
  else .text

/-! ### Values -/

def noValue {α : Type} (detail : String) : Except Fault α := .error (.noData .badValue detail)

def withoutBars (cs : List Char) : List Char := cs.filter (· ≠ '_')

/-- The sign of a number that is not empty, and what is behind the sign. -/
def signOf (cs : List Char) : Except Fault (Bool × List Char) :=
  if cs.isEmpty then .error (.noData .badIndex "string index out of range") else .ok (splitSign cs)

def readInt (s : String) : Except Fault Data := do
  let (negative, ds) ← signOf (withoutBars s.toList)
  let based (base : Nat) (ds : List Char) : Except Fault Data :=
    match Decimal.integerDigits? base (String.ofList ds) with
    | some (inner, _, digits) =>
      if base = 10 && digits.length > 4300 then
        noValue ("Exceeds the limit (4300 digits) for integer string conversion: value has "
          ++ toString digits.length ++ " digits; use sys.set_int_max_str_digits() to increase the limit")
      else .ok (.int (Decimal.signed (negative != inner) (ofDigits base digits)))
    | none =>
      let shown := Text.quote (String.ofList ds)
      noValue s!"invalid literal for int() with base {base}: {shown}"
  match ds with
  | '0' :: 'b' :: ds => based 2 ds
  | '0' :: 'o' :: ds => based 8 ds
  | '0' :: 'x' :: ds => based 16 ds
  | ds => based 10 ds

def readFloat (s : String) : Except Fault Data := do
  let (negative, body) ← signOf (withoutBars (Text.toLower s).toList)
  if body = ".inf".toList then return .float (Decimal.infinity negative)
  else if body = ".nan".toList then return .float Decimal.notANumber
  else
    match Decimal.readFloat? (String.ofList body) with
    | some x => return .float (if negative then -x else x)
    | none => noValue ("could not convert string to float: " ++ Text.quote (String.ofList body))

def daysIn (year month : Nat) : Nat :=
  if month = 2 then if isLeap year then 29 else 28
  else if [4, 6, 9, 11].contains month then 30
  else 31

def checkDate (d : Date) : Except Fault Unit :=
  if d.year = 0 then noValue "year 0 is out of range"
  else if d.month < 1 || d.month > 12 then noValue "month must be in 1..12"
  else if d.day < 1 || d.day > daysIn d.year d.month then noValue "day is out of range for month"
  else .ok ()

/-- The clocks of a zone are less than a day ahead or behind. -/
def checkZone (z : Zone) : Except Fault Unit :=
  if z.offset.natAbs < 86400 then .ok ()
  else noValue ("offset must be a timedelta strictly between -timedelta(hours=24) and "
    ++ "timedelta(hours=24), not " ++ durationText z.offset ++ ".")

def checkMoment (m : Moment) : Except Fault Unit := do
  match m.zone with
  | some z => checkZone z
  | none => pure ()
  checkDate m.date
  if m.hour > 23 then noValue "hour must be in 0..23"
  else if m.minute > 59 then noValue "minute must be in 0..59"
  else if m.second > 59 then noValue "second must be in 0..59"
  else return ()

def readMoment (s : String) : Except Fault Data := do
  match readDate? true s.toList, readMoment? true s.toList with
  | some d, _ =>
    checkDate d
    return .date d
  | none, some m =>
    checkMoment m
    return .moment m
  | none, none => .error .unknownTag

/-- A truth value by its name. More names count than those by which a plain scalar is one. -/
def readBool (s : String) : Except Fault Data :=
  let word := Text.toLower s
  if ["yes", "y", "true", "on"].contains word then .ok (.bool true)
  else if ["no", "n", "false", "off"].contains word then .ok (.bool false)
  else .error (.noData .badKey (Text.quote word))

/-- What a character stands for in base 64. -/
def sextet? (c : Char) : Option Nat :=
  if 'A' ≤ c && c ≤ 'Z' then some (c.toNat - 65)
  else if 'a' ≤ c && c ≤ 'z' then some (c.toNat - 71)
  else if c.isDigit then some (c.toNat + 4)
  else if c = '+' then some 62
  else if c = '/' then some 63
  else none

/-- The bytes that characters spell, `count` of the four that make three bytes being read and `rest` being what
is left of them. Strange characters are passed over, and padding ends the bytes where they may end. -/
def bytesFrom (count rest pads : Nat) : List Char → Except Fault (List UInt8)
  | [] => if count = 0 then .ok [] else .error .badBinary
  | c :: cs =>
    match sextet? c with
    | none =>
      if c ≠ '=' then bytesFrom count rest pads cs
      else if count < 2 then bytesFrom count rest pads cs
      else if count + pads + 1 ≥ 4 then .ok []
      else bytesFrom count rest (pads + 1) cs
    | some n =>
      match count with
      | 0 => bytesFrom 1 n 0 cs
      | 1 => do return (rest * 4 + n / 16).toUInt8 :: (← bytesFrom 2 (n % 16) 0 cs)
      | 2 => do return (rest * 16 + n / 4).toUInt8 :: (← bytesFrom 3 (n % 4) 0 cs)
      | _ => do return (rest * 64 + n).toUInt8 :: (← bytesFrom 0 0 0 cs)

def readBinary (s : String) : Except Fault Data := do
  if s.toList.any fun c => c.toNat ≥ 0x80 then .error .badBinary
  else return .bytes (← bytesFrom 0 0 0 s.toList)

/-- The data that a scalar of a kind stands for. -/
def Kind.read (s : String) : Kind → Except Fault Data
  | .null => .ok .null
  | .bool => readBool s
  | .int => readInt s
  | .float => readFloat s
  | .moment => readMoment s
  | .text => .ok (.text s)
  | .binary => readBinary s
  | .merge | .value => .error .unknownTag

/-- The kind that a tag asks for. -/
def kindNamed? (tag : String) : Option Kind :=
  if tag = "tag:yaml.org,2002:null" then some .null
  else if tag = "tag:yaml.org,2002:bool" then some .bool
  else if tag = "tag:yaml.org,2002:int" then some .int
  else if tag = "tag:yaml.org,2002:float" then some .float
  else if tag = "tag:yaml.org,2002:timestamp" then some .moment
  else if tag = "tag:yaml.org,2002:str" then some .text
  else if tag = "tag:yaml.org,2002:binary" then some .binary
  else if tag = "tag:yaml.org,2002:merge" then some .merge
  else if tag = "tag:yaml.org,2002:value" then some .value
  else none

end Stencil.Yaml.Scalar
