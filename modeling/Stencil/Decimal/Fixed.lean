import Stencil.Decimal.Layout

/-!
# Decimals with a given number of digits

A fraction rounded to so many places, or to so many digits with an exponent, a half to the even digit.
-/
namespace Stencil.Decimal

/-- `n / d` in units of `10 ^ k`, rounded. -/
def roundScaled (n d : Nat) (k : Int) : Nat :=
  if k ≥ 0 then roundDiv n (d * Nat.pow 10 k.toNat) else roundDiv (n * Nat.pow 10 (-k).toNat) d

/-- The number of units of `10 ^ -places`, with a point before the last `places` digits. -/
def pointed (units places : Nat) : String :=
  let digits := (padLeft (places + 1) (natText units)).toList
  let whole := digits.length - places
  String.ofList (digits.take whole)
    ++ (if places = 0 then "" else "." ++ String.ofList (digits.drop whole))

/-- `n / d` with `places` digits after the point. -/
def fixedText (n d places : Nat) : String := pointed (roundScaled n d (-(places : Int))) places

/-- `places + 1` digits of `n / d` and the place of the first one. -/
def roundedDigits (n d places : Nat) : Nat × Int :=
  if n = 0 then (0, 0)
  else
    let place := placeOf n d
    let units := roundScaled n d (place - places)
    if units ≥ Nat.pow 10 (places + 1) then (units / 10, place + 1) else (units, place)

/-- A sign and at least two digits. -/
def exponentText (place : Int) : String :=
  (if place < 0 then "e-" else "e+") ++ padLeft 2 (natText place.natAbs)

/-- One digit before the point, `places` digits after it, and an exponent. -/
def scientificText (n d places : Nat) : String :=
  let (units, place) := roundedDigits n d places
  pointed units places ++ exponentText place

/-- Drops the zeros that end the digits after the point, and the point if no digit is left. -/
def dropZeros (s : String) : String :=
  if s.contains '.' then
    let kept := s.toList.reverse.dropWhile (· == '0')
    String.ofList (match kept with
      | '.' :: rest => rest.reverse
      | _ => kept.reverse)
  else s

/-- `digits` digits, positional if the first one lies between the places -4 and `highest`. -/
def generalText (n d digits : Nat) (highest : Int) (keepZeros : Bool) : String :=
  let (units, place) := roundedDigits n d (digits - 1)
  let shorten := fun s => if keepZeros then s else dropZeros s
  if -4 ≤ place && place ≤ highest then
    shorten (fixedText n d ((digits : Int) - 1 - place).toNat)
  else shorten (pointed units (digits - 1)) ++ exponentText place

end Stencil.Decimal
