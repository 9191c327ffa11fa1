import Stencil.Decimal.Binary
import Stencil.Decimal.Layout
import Stencil.Error

/-!
# Data of a document

What a document says once its notation is read: scalars and collections of them. A list that serves as a key
of a mapping is kept as a tuple.
-/
namespace Stencil.Yaml

open Decimal (compareInt floatText plain)
open Text (braced quote)

structure Date where
  year : Nat
  month : Nat
  day : Nat
  deriving DecidableEq, Repr

/-- How many seconds the clocks of a zone are ahead, and how the zone is written. -/
structure Zone where
  offset : Int
  name : String
  deriving DecidableEq, Repr

structure Moment where
  date : Date
  hour : Nat
  minute : Nat
  second : Nat
  microsecond : Nat
  zone : Option Zone
  deriving DecidableEq, Repr

inductive Collection where
  | list
  | mapping
  /-- A mapping whose entries are written as a list. -/
  | ordered
  | set
  deriving DecidableEq, Repr

def Collection.typeName : Collection → String
  | list => "list"
  | mapping => "dict"
  | ordered => "ordereddict"
  | set => "set"

/-- How a collection is shown within itself. -/
def Collection.inner : Collection → String
  | list => "[...]"
  | ordered => "..."
  | mapping | set => "{...}"

inductive Data where
  | null
  | bool (b : Bool)
  | int (n : Int)
  | float (x : Float)
  | text (s : String)
  | bytes (content : List UInt8)
  | date (d : Date)
  | moment (m : Moment)
  | list (xs : List Data)
  | tuple (xs : List Data)
  /-- The items in the order in which they are gone through. -/
  | set (xs : List Data)
  | mapping (entries : List (Data × Data))
  | ordered (entries : List (Data × Data))
  /-- The collection that this stands in. -/
  | enclosing (c : Collection)
  deriving Inhabited

def twoDigits (n : Nat) : String := if n < 10 then s!"0{n}" else toString n

def fourDigits (n : Nat) : String := Decimal.padLeft 4 (toString n)

def sixDigits (n : Nat) : String := Decimal.padLeft 6 (toString n)

def Date.fields (d : Date) : List Nat := [d.year, d.month, d.day]

def Date.text (d : Date) : String :=
  fourDigits d.year ++ "-" ++ twoDigits d.month ++ "-" ++ twoDigits d.day

/-- Zeros at the end of the time are left out. -/
def Moment.fields (m : Moment) : List Nat :=
  let exact := if m.microsecond = 0 then [] else [m.microsecond]
  let seconds := if m.second = 0 && exact.isEmpty then [] else m.second :: exact
  m.date.fields ++ m.hour :: m.minute :: seconds

/-- A length of time as full days, which may be negative, and seconds. -/
def durationText (seconds : Int) : String :=
  let days := seconds.fdiv 86400
  let rest := seconds.fmod 86400
  let parts := (if days = 0 then [] else ["days=" ++ toString days])
    ++ (if rest = 0 then [] else ["seconds=" ++ toString rest])
  "datetime.timedelta(" ++ (if parts.isEmpty then "0" else String.intercalate ", " parts) ++ ")"

def Zone.literal (z : Zone) : String :=
  "datetime.timezone(" ++ durationText z.offset ++ ", " ++ quote z.name ++ ")"

/-- A sign, hours and minutes. -/
def Zone.text (z : Zone) : String :=
  let minutes := z.offset.natAbs / 60
  (if z.offset < 0 then "-" else "+") ++ twoDigits (minutes / 60) ++ ":" ++ twoDigits (minutes % 60)

def Moment.text (m : Moment) : String :=
  let fraction := if m.microsecond = 0 then "" else "." ++ sixDigits m.microsecond
  let zone := (m.zone.map Zone.text).getD ""
  m.date.text ++ " " ++ twoDigits m.hour ++ ":" ++ twoDigits m.minute ++ ":" ++ twoDigits m.second
    ++ fraction ++ zone

/-- How many days of the year come before a month. -/
def daysBefore (isLeap : Bool) (month : Nat) : Nat :=
  let days := [0, 31, 59, 90, 120, 151, 181, 212, 243, 273, 304, 334].getD (month - 1) 0
  if isLeap && month > 2 then days + 1 else days

def isLeap (year : Nat) : Bool := year % 4 = 0 && (year % 100 ≠ 0 || year % 400 = 0)

/-- The number of the day, counted from the first day of the first year. -/
def Date.number (d : Date) : Nat :=
  let years := d.year - 1
  years * 365 + years / 4 - years / 100 + years / 400 + daysBefore (isLeap d.year) d.month + d.day

/-- The microseconds up to the moment, by the clocks of the zero meridian if it is in a zone. -/
def Moment.instant (m : Moment) : Int :=
  let seconds := ((m.date.number * 24 + m.hour) * 60 + m.minute) * 60 + m.second
  let offset := (m.zone.map Zone.offset).getD 0
  ((seconds : Int) - offset) * 1000000 + m.microsecond

namespace Data

def typeName : Data → String
  | null => "NoneType"
  | bool _ => "bool"
  | int _ => "int"
  | float _ => "float"
  | text _ => "str"
  | bytes _ => "bytes"
  | date _ => "date"
  | moment _ => "datetime"
  | tuple _ => "tuple"
  | list _ => Collection.typeName .list
  | set _ => Collection.typeName .set
  | mapping _ => Collection.typeName .mapping
  | ordered _ => Collection.typeName .ordered
  | enclosing c => c.typeName

/-- The entries of a mapping, of whatever kind. -/
def entries? : Data → Option (List (Data × Data))
  | mapping entries | ordered entries => some entries
  | _ => none

/-- Is there nothing in it, or nothing but zero? -/
def isEmpty : Data → Bool
  | null => true
  | bool b => !b
  | int n => n == 0
  | float x => x == 0
  | text s => s == ""
  | bytes content => content.isEmpty
  | list xs | tuple xs | set xs => xs.isEmpty
  | mapping entries | ordered entries => entries.isEmpty
  | date _ | moment _ | enclosing _ => false

theorem isEmpty_of_entries? {d : Data} {entries : List (Data × Data)} (h : d.entries? = some entries) :
    d.isEmpty = entries.isEmpty := by
  cases d <;> cases h <;> rfl

def fieldTexts (ns : List Nat) : String := String.intercalate ", " (ns.map toString)

/-- Bytes are shown by the characters that they stand for if these are plain ones. -/
def bytesLiteral (content : List UInt8) : String :=
  let cs := content.map fun b => Char.ofNat b.toNat
  let q := Text.quoteFor cs
  let shown (c : Char) : List Char :=
    if c.toNat < 0x80 then Text.escapeChar q c else '\\' :: 'x' :: Text.hexDigits 2 c.toNat
  String.ofList ('b' :: q :: cs.flatMap shown ++ [q])

mutual
/-- How messages show data. -/
def literal : Data → String
  | null => "None"
  | bool b => if b then "True" else "False"
  | int n => toString n
  | float x => floatText plain x
  | text s => quote s
  | bytes content => bytesLiteral content
  | date d => "datetime.date(" ++ fieldTexts d.fields ++ ")"
  | moment m =>
    let zone := (m.zone.map fun z => ", tzinfo=" ++ z.literal).getD ""
    "datetime.datetime(" ++ fieldTexts m.fields ++ zone ++ ")"
  | list xs => "[" ++ String.intercalate ", " (literals xs) ++ "]"
  | tuple [x] => "(" ++ literal x ++ ",)"
  | tuple xs => "(" ++ String.intercalate ", " (literals xs) ++ ")"
  | set [] => "set()"
  | set xs => braced (String.intercalate ", " (literals xs))
  | mapping entries => braced (String.intercalate ", " (entryLiterals entries))
  | ordered [] => "ordereddict()"
  | ordered entries => "ordereddict([" ++ String.intercalate ", " (pairLiterals entries) ++ "])"
  | enclosing c => c.inner

def literals : List Data → List String
  | [] => []
  | x :: xs => literal x :: literals xs

def entryLiterals : List (Data × Data) → List String
  | [] => []
  | (k, v) :: rest => (literal k ++ ": " ++ literal v) :: entryLiterals rest

def pairLiterals : List (Data × Data) → List String
  | [] => []
  | (k, v) :: rest => ("(" ++ literal k ++ ", " ++ literal v ++ ")") :: pairLiterals rest
end

mutual
/-- Is no integer in it too long to be shown? -/
def hasText : Data → Bool
  | int n => decide (n.natAbs < Nat.pow 10 4300)
  | list xs | tuple xs | set xs => haveText xs
  | mapping entries | ordered entries => entriesHaveText entries
  | null | bool _ | float _ | text _ | bytes _ | date _ | moment _ | enclosing _ => true

def haveText : List Data → Bool
  | [] => true
  | x :: xs => hasText x && haveText xs

def entriesHaveText : List (Data × Data) → Bool
  | [] => true
  | (k, v) :: rest => hasText k && hasText v && entriesHaveText rest
end

def tooLongToShow : String :=
  "Exceeds the limit (4300 digits) for integer string conversion; "
    ++ "use sys.set_int_max_str_digits() to increase the limit"

mutual
/-- The type of the part that keeps data from being a key. -/
def unhashable? : Data → Option String
  | tuple xs => firstUnhashable? xs
  | list _ => some (Collection.typeName .list)
  | set _ => some (Collection.typeName .set)
  | mapping _ => some (Collection.typeName .mapping)
  | ordered _ => some (Collection.typeName .ordered)
  | enclosing c => some c.typeName
  | null | bool _ | int _ | float _ | text _ | bytes _ | date _ | moment _ => none

def firstUnhashable? : List Data → Option String
  | [] => none
  | x :: xs => unhashable? x <|> firstUnhashable? xs
end

/-- Data as it stands inside other text. -/
def plainText : Data → String
  | text s => s
  | date d => d.text
  | moment m => m.text
  | d => d.literal

/-! ### Comparing -/

def int? : Data → Option Int
  | int n => some n
  | bool b => some (if b then 1 else 0)
  | _ => none

/-- The order of two numbers; none if one of them is no number or not comparable. -/
def compareNumbers (a b : Data) : Option (Option Ordering) :=
  match a.int?, b.int?, a, b with
  | some m, some n, _, _ => some (some (compare m n))
  | some m, _, _, float y => some (compareInt m y)
  | _, some n, float x, _ => some ((compareInt n x).map Ordering.swap)
  | _, _, float x, float y =>
    some (if x < y then some .lt else if x == y then some .eq else if x > y then some .gt else none)
  | _, _, _, _ => none

mutual
/-- Are two keys of a mapping the same key? -/
def sameKey : Data → Data → Bool
  | null, null => true
  | text s, text t => s == t
  | bytes a, bytes b => a == b
  | date d, date e => d == e
  | moment d, moment e => d.zone.isSome == e.zone.isSome && d.instant == e.instant
  | tuple xs, tuple ys => sameKeys xs ys
  | float x, float y => x == y || (x != x && y != y)
  | a, b => compareNumbers a b == some (some .eq)

def sameKeys : List Data → List Data → Bool
  | [], [] => true
  | x :: xs, y :: ys => sameKey x y && sameKeys xs ys
  | _, _ => false
end

/-- The first numbers that differ decide. -/
def compareFields : List Nat → List Nat → Ordering
  | x :: xs, y :: ys => (compare x y).then (compareFields xs ys)
  | [], [] => .eq
  | [], _ => .lt
  | _, [] => .gt

/-- How a comparison names the type. -/
def orderName : Data → String
  | date _ => "datetime.date"
  | moment _ => "datetime.datetime"
  | d => d.typeName

mutual
def less : Data → Data → Except Incomparable Bool
  | text s, text t => .ok (decide (s < t))
  | bytes a, bytes b => .ok (decide (a < b))
  | date d, date e => .ok (compareFields d.fields e.fields == .lt)
  | moment d, moment e =>
    if d.zone.isSome == e.zone.isSome then .ok (decide (d.instant < e.instant)) else .error .zones
  | date _, moment _ | moment _, date _ => .error .dateAndMoment
  | tuple xs, tuple ys => lessAll xs ys
  | a, b =>
    match compareNumbers a b with
    | some o => .ok (o == some .lt)
    | none => .error (.types a.orderName b.orderName)

def lessAll : List Data → List Data → Except Incomparable Bool
  | x :: xs, y :: ys => if sameKey x y then lessAll xs ys else less x y
  | [], _ :: _ => .ok true
  | _, [] => .ok false
end

/-- The value of a key that is a text. A value that stands for the mapping around it is the mapping. -/
def find? (key : String) (entries : List (Data × Data)) : Option Data :=
  ((entries.find? fun e => sameKey e.1 (text key)).map (·.2)).map fun
    | enclosing .mapping => mapping entries
    | enclosing .ordered => ordered entries
    | d => d

end Data

/-! ### Readers -/

/-- Why a text is not read: the reader diagnoses it, or reading breaks off. -/
inductive Refusal where
  | diagnosed (diagnosis : String)
  | aborted (fault : DataFault) (detail : String)
  deriving DecidableEq, Repr

/-- What a text says, in a notation that the reader knows. -/
abbrev Reader := String → Except Refusal Data

end Stencil.Yaml
