import Stencil.Decimal.Shortest

/-!
# Numbers as text

How a number is laid out: with a point if its first digit lies within a range of places, else with an
exponent. A number with a point always has a digit on both sides of it.
-/
namespace Stencil.Decimal

/-- Between which places the first digit is written positionally, and how wide an exponent is. -/
structure Layout where
  lowest : Int
  highest : Int
  exponentWidth : Nat

/-- Positional from `0.0001` up to sixteen digits; exponents have two digits. -/
def plain : Layout := ⟨-4, 15, 2⟩

def natText (n : Nat) : String := String.ofList (Nat.toDigits 10 n)

def zeros (n : Nat) : String := String.ofList (List.replicate n '0')

/-- Drops the zeros at the end of the digits. -/
def Scaled.trimmed (s : Scaled) : List Char :=
  ((Nat.toDigits 10 s.digits).reverse.dropWhile (· == '0')).reverse

def padLeft (width : Nat) (s : String) : String := zeros (width - s.length) ++ s

/-- A positive decimal. -/
def Scaled.text (layout : Layout) (s : Scaled) : String :=
  let place : Int := (Nat.toDigits 10 s.digits).length + s.exponent - 1
  let digits := s.trimmed
  let count : Int := digits.length
  if place < layout.lowest || place > layout.highest then
    let head := String.ofList (digits.take 1)
    let tail := digits.drop 1
    let point := if tail.isEmpty then "" else "." ++ String.ofList tail
    let sign := if place < 0 then "e-" else "e+"
    head ++ point ++ sign ++ padLeft layout.exponentWidth (natText place.natAbs)
  else if place < 0 then "0." ++ zeros (-place - 1).toNat ++ String.ofList digits
  else if count ≤ place + 1 then
    String.ofList digits ++ zeros (place + 1 - count).toNat ++ ".0"
  else
    String.ofList (digits.take (place + 1).toNat) ++ "."
      ++ String.ofList (digits.drop (place + 1).toNat)

def floatText (layout : Layout) (x : Float) : String :=
  match Binary.ofFloat x with
  | .nan => "nan"
  | .infinite negative => if negative then "-inf" else "inf"
  | .finite negative m e =>
    (if negative then "-" else "") ++ (if m = 0 then "0.0" else (shortest m e).text layout)

end Stencil.Decimal
