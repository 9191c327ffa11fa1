/-!
# Binary floating point numbers, exactly

A finite number is a sign, a natural number and a power of two. Taking a number apart and rounding a
fraction to the nearest number are done in exact arithmetic, so that text, integers and numbers convert
into each other without a hidden error.
-/
namespace Stencil.Decimal

/-- A number taken apart: `mantissa · 2 ^ exponent`. -/
inductive Binary where
  | finite (negative : Bool) (mantissa : Nat) (exponent : Int)
  | infinite (negative : Bool)
  | nan
  deriving DecidableEq, Repr

/-- The least exponent of two. -/
def leastExponent : Int := -1074

def Binary.ofFloat (x : Float) : Binary :=
  let bits : Nat := x.toBits.toNat
  let negative := bits / Nat.pow 2 63 == 1
  let field : Nat := bits / Nat.pow 2 52 % 2048
  let fraction : Nat := bits % Nat.pow 2 52
  if field = 2047 then (if fraction = 0 then .infinite negative else .nan)
  else if field = 0 then .finite negative fraction leastExponent
  else .finite negative (fraction + Nat.pow 2 52) ((field : Int) - 1075)

/-- `num / den` rounded to the nearest integer, a half to the even one. -/
def roundDiv (num den : Nat) : Nat :=
  let low := num / den
  let rest := num % den
  if 2 * rest < den then low
  else if 2 * rest > den then low + 1
  else if low % 2 = 0 then low else low + 1

/-- `n · 2 ^ e` and `d` as a fraction without negative powers. -/
def scaleTwo (num den : Nat) (e : Int) : Nat × Nat :=
  if e ≥ 0 then (num * Nat.pow 2 e.toNat, den) else (num, den * Nat.pow 2 (-e).toNat)

def infinity (negative : Bool) : Float := if negative then -(1.0 / 0.0) else 1.0 / 0.0

def notANumber : Float := 0.0 / 0.0

/-- The sign bit and the rest of the bits as a number. -/
def assemble (negative : Bool) (bits : Nat) : Float :=
  Float.ofBits (UInt64.ofNat ((if negative then Nat.pow 2 63 else 0) + bits))

/-- The number nearest to `num / den`, ties to an even last bit; infinite if the fraction is too large. -/
def nearest (negative : Bool) (num den : Nat) : Float :=
  if num = 0 || den = 0 then assemble negative 0
  else
    let guess : Int := (num.log2 : Int) - den.log2 - 53
    let (n, d) := scaleTwo num den (-guess)
    let e := if n / d ≥ Nat.pow 2 53 then guess + 1 else guess
    let e := max e leastExponent
    let (n, d) := scaleTwo num den (-e)
    let m := roundDiv n d
    if e > 971 then infinity negative
    else if e = leastExponent then assemble negative m
    else
      let bits := (e + 1075).toNat * Nat.pow 2 52 + (m - Nat.pow 2 52)
      if bits ≥ 2047 * Nat.pow 2 52 then infinity negative else assemble negative bits

def ofInt (n : Int) : Float := nearest (n < 0) n.natAbs 1

/-- The number nearest to `digits · 10 ^ exponent`. -/
def ofScientific (negative : Bool) (digits : Nat) (exponent : Int) : Float :=
  let size : Int := (Nat.toDigits 10 digits).length
  if digits = 0 || exponent + size < -330 then assemble negative 0
  else if exponent + size > 310 then infinity negative
  else if exponent ≥ 0 then nearest negative (digits * Nat.pow 10 exponent.toNat) 1
  else nearest negative digits (Nat.pow 10 (-exponent).toNat)

/-- The integer between a finite number and zero that is nearest to the number. -/
def truncate? (x : Float) : Option Int :=
  match Binary.ofFloat x with
  | .finite negative m e =>
    let n : Nat := if e ≥ 0 then m * Nat.pow 2 e.toNat else m / Nat.pow 2 (-e).toNat
    some (if negative then -(n : Int) else n)
  | _ => none

/-- A finite number as a fraction. -/
def fraction? (x : Float) : Option (Int × Nat) :=
  match Binary.ofFloat x with
  | .finite negative m e =>
    let (n, d) := scaleTwo m 1 e
    some (if negative then -(n : Int) else n, d)
  | _ => none

/-- Compares an integer with a number; nothing compares with what is not a number. -/
def compareInt (n : Int) (x : Float) : Option Ordering :=
  match Binary.ofFloat x with
  | .nan => none
  | .infinite negative => some (if negative then .gt else .lt)
  | .finite .. => (fraction? x).map fun (p, q) => compare (n * q) p

/-- The remainder of a division that truncates, with the sign of the dividend. -/
def remainder (x y : Float) : Float :=
  match Binary.ofFloat x, Binary.ofFloat y with
  | .finite negative m e, .finite _ k f =>
    if k = 0 then notANumber
    else
      let low := min e f
      let a := m * Nat.pow 2 (e - low).toNat
      let b := k * Nat.pow 2 (f - low).toNat
      let (n, d) := scaleTwo (a % b) 1 low
      nearest negative n d
  | .finite .., .infinite _ => x
  | _, _ => notANumber

end Stencil.Decimal
