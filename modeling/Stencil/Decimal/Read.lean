import Stencil.Decimal.Binary
import Stencil.Text.Blank
import Stencil.Text.Letters

/-!
# Reading numbers

Integers in bases up to 36 and decimal numbers. Digits of any script count as digits, blanks around a
number do not count, and a single underscore may stand between two digits.
-/
namespace Stencil.Decimal

open Text (trim decimalValue?)

/-- Digits of any script as the common ones. -/
def commonDigit (c : Char) : Char :=
  match decimalValue? c with
  | some n => Nat.digitChar n
  | none => c

def digitValue? (base : Nat) (c : Char) : Option Nat :=
  let value :=
    if c.isDigit then c.toNat - 48
    else if 'a' ≤ c && c ≤ 'z' then c.toNat - 87
    else if 'A' ≤ c && c ≤ 'Z' then c.toNat - 55
    else base
  if value < base then some value else none

/-- Takes the underscores out, if each of them is between two digits. -/
def dropUnderscores? (isDigit : Char → Bool) (afterDigit : Bool) : List Char → Option (List Char)
  | [] => some []
  | ['_'] => none
  | '_' :: c :: rest =>
    if afterDigit && isDigit c then (dropUnderscores? isDigit true rest).map (c :: ·) else none
  | c :: rest => (dropUnderscores? isDigit (isDigit c) rest).map (c :: ·)

def ofDigits (base : Nat) (cs : List Char) : Nat :=
  cs.foldl (fun n c => n * base + (digitValue? base c).getD 0) 0

/-- Digits alone, at least one of them. -/
def readDigits? (base : Nat) (cs : List Char) : Option (List Char) :=
  match dropUnderscores? (fun c => (digitValue? base c).isSome) false cs with
  | some (c :: rest) =>
    if (c :: rest).all fun c => (digitValue? base c).isSome then some (c :: rest) else none
  | _ => none

/-- The base that a prefix names, and what follows the prefix. -/
def basePrefix? : List Char → Option (Nat × List Char)
  | '0' :: c :: rest =>
    let base? :=
      if c = 'x' || c = 'X' then some 16
      else if c = 'o' || c = 'O' then some 8
      else if c = 'b' || c = 'B' then some 2
      else none
    base?.map fun base =>
      (base, match rest with
        | '_' :: rest => rest
        | rest => rest)
  | _ => none

/-- The base and digits of a number without sign. In base 0 a prefix may name the base; a number without
one has no leading zero. -/
def basedDigits? (base : Nat) (cs : List Char) : Option (Nat × List Char) :=
  match basePrefix? cs with
  | some (named, rest) =>
    if base = 0 || base = named then (readDigits? named rest).map fun ds => (named, ds)
    else (readDigits? base cs).map fun ds => (base, ds)
  | none =>
    if base = 0 then
      match readDigits? 10 cs with
      | some ('0' :: ds) => if ds.all (· == '0') then some (10, '0' :: ds) else none
      | some ds => some (10, ds)
      | none => none
    else (readDigits? base cs).map fun ds => (base, ds)

def splitSign : List Char → Bool × List Char
  | '-' :: rest => (true, rest)
  | '+' :: rest => (false, rest)
  | cs => (false, cs)

/-- An integer with a sign, as its sign, base and digits. -/
def integerDigits? (base : Nat) (s : String) : Option (Bool × Nat × List Char) :=
  let (negative, cs) := splitSign ((trim s.toList).map commonDigit)
  (basedDigits? base cs).map fun (base, ds) => (negative, base, ds)

def signed (negative : Bool) (n : Nat) : Int := if negative then -(n : Int) else n

def lowerAscii (cs : List Char) : List Char := cs.map Char.toLower

/-- The decimal digits at the head, and the rest. -/
def spanDigits (cs : List Char) : List Char × List Char :=
  (cs.takeWhile Char.isDigit, cs.dropWhile Char.isDigit)

/-- An exponent, or nothing. -/
def readExponent? : List Char → Option Int
  | [] => some 0
  | c :: rest =>
    if c = 'e' || c = 'E' then
      let (negative, rest) := splitSign rest
      match spanDigits rest with
      | (d :: ds, []) => some (signed negative (ofDigits 10 (d :: ds)))
      | _ => none
    else none

/-- A number without sign: digits, a point with digits, an exponent; or a name for a number that is not
finite. -/
def readUnsigned? (negative : Bool) (cs : List Char) : Option Float :=
  let name := String.ofList (lowerAscii cs)
  if name = "inf" || name = "infinity" then some (infinity negative)
  else if name = "nan" then some notANumber
  else
    let (whole, rest) := spanDigits cs
    let (fraction, rest) :=
      match rest with
      | '.' :: rest => spanDigits rest
      | rest => ([], rest)
    if whole.isEmpty && fraction.isEmpty then none
    else
      (readExponent? rest).map fun e =>
        ofScientific negative (ofDigits 10 (whole ++ fraction)) (e - fraction.length)

def readFloat? (s : String) : Option Float := do
  let cs ← dropUnderscores? Char.isDigit false ((trim s.toList).map commonDigit)
  let (negative, cs) := splitSign cs
  readUnsigned? negative cs

end Stencil.Decimal
