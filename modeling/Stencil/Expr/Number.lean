import Stencil.Decimal.Fixed
import Stencil.Decimal.Read
import Stencil.Expr.Compare
import Stencil.Expr.Show

/-!
# Arithmetic on numbers

Integers are exact and division of integers rounds to the floor. Integers and other numbers mix: the
integer becomes the nearest number of the other kind. Truth values count as zero and one.
-/
namespace Stencil.Expr

open Decimal (Binary)

/-- The binary operations of arithmetic. -/
inductive Operation where
  | add
  | sub
  | mul
  | div
  | floorDiv
  | mod
  | pow
  deriving DecidableEq, Repr

def Operation.symbol : Operation → String
  | add => "+"
  | sub => "-"
  | mul => "*"
  | div => "/"
  | floorDiv => "//"
  | mod => "%"
  | pow => "** or pow()"

def zeroDivision {α : Type} (message : String) : Result α := .error (.raised .zeroDivision message)

def isFinite (x : Float) : Bool :=
  match Binary.ofFloat x with
  | .finite .. => true
  | _ => false

def isNegative (x : Float) : Bool :=
  match Binary.ofFloat x with
  | .finite negative .. | .infinite negative => negative
  | .nan => false

/-- Zero with the sign of `x`. -/
def zeroLike (x : Float) : Float := if isNegative x then -0.0 else 0.0

def floatOfInt (n : Int) : Result Float :=
  let x := Decimal.ofInt n
  if isFinite x then .ok x else overflow "int too large to convert to float"

/-- A number without what follows its point. -/
def intOfFloat (x : Float) : Result Int :=
  match Decimal.truncate? x, Binary.ofFloat x with
  | some n, _ => .ok n
  | none, .nan => valueError "cannot convert float NaN to integer"
  | none, _ => overflow "cannot convert float infinity to integer"

/-- The quotient of two integers as the nearest number. -/
def divideInts (m n : Int) : Result Float :=
  if n = 0 then zeroDivision "division by zero"
  else
    let x := Decimal.nearest ((decide (m < 0)) != decide (n < 0)) m.natAbs n.natAbs
    if isFinite x then .ok (if m = 0 && n < 0 then -0.0 else x)
    else overflow "integer division result too large for a float"

/-- The remainder with the sign of the divisor. -/
def floatMod (x y : Float) : Float :=
  let r := Decimal.remainder x y
  if r == 0 then zeroLike y
  else if decide (y < 0) != decide (r < 0) then r + y else r

/-- The quotient rounded to the floor. -/
def floatFloorDiv (x y : Float) : Float :=
  let r := Decimal.remainder x y
  let quotient := (x - r) / y
  let quotient := if r != 0 && decide (y < 0) != decide (r < 0) then quotient - 1 else quotient
  if quotient == 0 then zeroLike (x / y)
  else
    let floor := quotient.floor
    if quotient - floor > 0.5 then floor + 1 else floor

/-- Has a number nothing after its point? -/
def isWhole (x : Float) : Bool := x.floor == x

def floatPow (x y : Float) : Result Value :=
  if x == 0 && y < 0 then zeroDivision "0.0 cannot be raised to a negative power"
  else if x < 0 && isFinite x && isFinite y && !isWhole y then
    let size := Float.pow x.abs y
    let angle := Float.atan2 0.0 x * y
    .ok (.complex (size * angle.cos) (size * angle.sin))
  else
    let z := Float.pow x y
    if isFinite x && isFinite y && !isFinite z then
      overflow "(34, 'Numerical result out of range')"
    else .ok (.float z)

def intOperation (op : Operation) (m n : Int) : Result Value :=
  match op with
  | .add => .ok (.int (m + n))
  | .sub => .ok (.int (m - n))
  | .mul => .ok (.int (m * n))
  | .div => do return .float (← divideInts m n)
  | .floorDiv =>
    if n = 0 then zeroDivision "integer division or modulo by zero" else .ok (.int (Int.fdiv m n))
  | .mod => if n = 0 then zeroDivision "integer modulo by zero" else .ok (.int (Int.fmod m n))
  | .pow =>
    if n ≥ 0 then .ok (.int (Int.pow m n.toNat))
    else do floatPow (← floatOfInt m) (← floatOfInt n)

def floatOperation (op : Operation) (x y : Float) : Result Value :=
  match op with
  | .add => .ok (.float (x + y))
  | .sub => .ok (.float (x - y))
  | .mul => .ok (.float (x * y))
  | .div => if y == 0 then zeroDivision "float division by zero" else .ok (.float (x / y))
  | .floorDiv =>
    if y == 0 then zeroDivision "float floor division by zero" else .ok (.float (floatFloorDiv x y))
  | .mod => if y == 0 then zeroDivision "float modulo" else .ok (.float (floatMod x y))
  | .pow => floatPow x y

/-- The operation on two numbers; none if one of them is no number. -/
def numberOperation? (op : Operation) (a b : Value) : Option (Result Value) :=
  match a.int?, b.int?, a, b with
  | some m, some n, _, _ => some (intOperation op m n)
  | some m, _, _, .float y => some do floatOperation op (← floatOfInt m) y
  | _, some n, .float x, _ => some do floatOperation op x (← floatOfInt n)
  | _, _, .float x, .float y => some (floatOperation op x y)
  | _, _, _, _ => none

def Value.toFloat? : Value → Option (Result Float)
  | .float x => some (.ok x)
  | v => v.int?.map floatOfInt

/-- An integer rounded to a multiple of `10 ^ places`, a half to the even multiple. -/
def roundIntTo (n : Int) (places : Nat) : Int :=
  Decimal.signed (decide (n < 0)) (Decimal.roundDiv n.natAbs (Nat.pow 10 places) * Nat.pow 10 places)

/-- A number rounded to so many digits after the point, exactly: a half goes to the even digit. -/
def roundFloatTo (x : Float) (places : Int) : Result Float :=
  match Decimal.fraction? x with
  | none => .ok x
  | some (p, q) =>
    if places > 323 then .ok x
    else if places < -308 then .ok (zeroLike x)
    else
      let units := Decimal.roundScaled p.natAbs q (-places)
      let rounded := Decimal.ofScientific (isNegative x) units (-places)
      if isFinite rounded then .ok rounded else overflow "rounded value too large to represent"

/-- A number rounded to the nearest integer, a half to the even one. -/
def roundFloat (x : Float) : Result Int :=
  match Decimal.fraction? x with
  | some (p, q) => .ok (Decimal.signed (decide (p < 0)) (Decimal.roundDiv p.natAbs q))
  | none => intOfFloat x

/-- The integer that a text holds in decimal digits; `v` is the text as a value. -/
def readDecimal (v : Value) (s : String) : Result Int :=
  match Decimal.integerDigits? 10 s with
  | some (negative, base, ds) =>
    if ds.length > digitLimit then valueError (tooLongToRead ds.length)
    else .ok (Decimal.signed negative (Decimal.ofDigits base ds))
  | none => do
    let shown ← v.literal
    valueError s!"invalid literal for int() with base 10: {shown}"

/-- The number that a value stands for or that a text holds. -/
def Value.makeFloat (v : Value) : Result Float :=
  match v, v.text?, v.toFloat? with
  | .absent a, _, _ => .error a.failure
  | _, some s, _ =>
    match Decimal.readFloat? s with
    | some x => .ok x
    | Option.none => do
      let shown ← v.literal
      valueError s!"could not convert string to float: {shown}"
  | _, _, some x => x
  | v, _, _ => typeError s!"float() argument must be a string or a real number, not '{v.typeName}'"

/-- The integer that a value stands for or that a text holds, without what follows its point. -/
def Value.makeInt (v : Value) : Result Int :=
  match v, v.text?, v.int? with
  | .absent a, _, _ => .error a.failure
  | .float x, _, _ => intOfFloat x
  | _, _, some n => .ok n
  | v, some s, _ => readDecimal v s
  | v, _, _ => typeError s!"int() argument must be a string or a real number, not '{v.typeName}'"

/-- An argument that has to be an integer. -/
def Value.toIndex (v : Value) : Result Int :=
  match v.int? with
  | some n => .ok n
  | Option.none => typeError s!"'{v.typeName}' object cannot be interpreted as an integer"

/-! ### Sizes -/

/-- No text or list has more items than this. -/
def sizeLimit : Nat := Nat.pow 2 63

/-- Switches and the sizes of small things are less than this. -/
def smallLimit : Nat := Nat.pow 2 31

/-- A larger text or list than this finds no room. -/
def roomLimit : Nat := Nat.pow 2 36

def noRoom {α : Type} : Result α := .error (.raised .engine "")

/-- A size that there is room for. -/
def roomFor (n : Int) : Result Int := if n ≥ roomLimit then noRoom else .ok n

/-- Does an integer lie from the negative limit up to below the limit? -/
def fits (limit : Nat) (n : Int) : Bool := -(limit : Int) ≤ n && n < limit

/-- The integer if it is a size. -/
def sizeOf (n : Int) : Result Int :=
  if fits sizeLimit n then .ok n else overflow "Python int too large to convert to C ssize_t"

/-- The integer if it is small. -/
def smallOf (n : Int) : Result Int :=
  if fits smallLimit n then .ok n else overflow "Python int too large to convert to C int"

/-- An argument that counts or places items. -/
def Value.toSize (v : Value) : Result Int := do sizeOf (← v.toIndex)

/-- An argument that switches something or is the size of a small thing. -/
def Value.toSmall (v : Value) : Result Int := do smallOf (← v.toIndex)

end Stencil.Expr
