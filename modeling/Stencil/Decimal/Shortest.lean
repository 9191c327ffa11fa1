import Stencil.Decimal.Binary

/-!
# Shortest decimals

The fewest decimal digits that read back as the same number, and the nearest such decimal among those
with that many digits. For each count of digits only the two neighbours of the number on that decimal
grid can read back if any decimal with so many digits does.
-/
namespace Stencil.Decimal

/-- `digits · 10 ^ exponent`. -/
structure Scaled where
  digits : Nat
  exponent : Int
  deriving DecidableEq, Repr

/-- Compares `a · 10 ^ k` with `n / d`. -/
def compareScaled (a : Nat) (k : Int) (n d : Nat) : Ordering :=
  if k ≥ 0 then compare (a * Nat.pow 10 k.toNat * d) n else compare (a * d) (n * Nat.pow 10 (-k).toNat)

/-- The fractions that round to a number: from `low` to `high`, ends included or not. -/
structure Interval where
  low : Nat × Nat
  high : Nat × Nat
  closed : Bool

/-- The interval of `m · 2 ^ e`. Below a power of two the neighbour is twice as near. -/
def intervalOf (m : Nat) (e : Int) : Interval :=
  let narrow := m == Nat.pow 2 52 && e > leastExponent
  { low := if narrow then scaleTwo (4 * m - 1) 4 e else scaleTwo (2 * m - 1) 2 e
    high := scaleTwo (2 * m + 1) 2 e
    closed := m % 2 == 0 }

def Interval.holds (i : Interval) (a : Nat) (k : Int) : Bool :=
  let above := compareScaled a k i.low.1 i.low.2
  let below := compareScaled a k i.high.1 i.high.2
  (above == .gt || (i.closed && above == .eq)) && (below == .lt || (i.closed && below == .eq))

/-- `n / d` in units of `10 ^ k`, rounded down. -/
def floorScaled (n d : Nat) (k : Int) : Nat :=
  if k ≥ 0 then n / (d * Nat.pow 10 k.toNat) else n * Nat.pow 10 (-k).toNat / d

/-- Is `n / d` nearer to `a + 1` than to `a`, in units of `10 ^ k`? A tie goes to the even one. -/
def nearerAbove (n d a : Nat) (k : Int) : Bool :=
  match compareScaled (2 * a + 1) k (2 * n) d with
  | .lt => true
  | .gt => false
  | .eq => a % 2 == 1

/-- The decimal place of the first digit: `10 ^ place ≤ n / d < 10 ^ (place + 1)`. -/
def placeOf (n d : Nat) : Int :=
  let guess : Int := (Nat.toDigits 10 n).length - (Nat.toDigits 10 d).length
  if compareScaled 1 guess n d == .gt then guess - 1 else guess

/-- Tries `count`, `count + 1`, … digits. Seventeen always suffice. -/
def shortestFrom (n d : Nat) (i : Interval) (place : Int) : Nat → Nat → Scaled
  | 0, count =>
    let k := place - count + 1
    ⟨floorScaled n d k, k⟩
  | tries + 1, count =>
    let k := place - count + 1
    let a := floorScaled n d k
    match i.holds a k, i.holds (a + 1) k with
    | true, true => ⟨if nearerAbove n d a k then a + 1 else a, k⟩
    | true, false => ⟨a, k⟩
    | false, true => ⟨a + 1, k⟩
    | false, false => shortestFrom n d i place tries (count + 1)

/-- The shortest decimal of `m · 2 ^ e`, where `m` is not zero. -/
def shortest (m : Nat) (e : Int) : Scaled :=
  let (n, d) := scaleTwo m 1 e
  shortestFrom n d (intervalOf m e) (placeOf n d) 17 1

end Stencil.Decimal
