import Stencil.Expr.Members
import Stencil.Expr.Percent

/-!
# Operators

What the operators of expressions do to values of any kind: arithmetic on numbers, differences of sets,
joining and repeating of text, lists and tuples, and filling of text. Text that is joined to markup is escaped.
-/
namespace Stencil.Expr

namespace Value

def unsupported {α : Type} (symbol : String) (a b : Value) : Result α :=
  typeError s!"unsupported operand type(s) for {symbol}: '{a.typeName}' and '{b.typeName}'"

def notJoinable {α : Type} (a b : Value) : Result α :=
  typeError s!"can only concatenate {a.typeName} (not \"{b.typeName}\") to {a.typeName}"

/-- The failure of an absent operand; the left one fails first. -/
def operandFailure? : Value → Value → Option Failure
  | absent a, _ | _, absent a => some a.failure
  | _, _ => Option.none

/-- The items over and over again, `n` times. -/
def repeated {α : Type} (xs : List α) (n : Int) : Result (List α) :=
  if !fits sizeLimit n then overflow "cannot fit 'int' into an index-sized integer"
  else if n ≤ 0 || xs.isEmpty then .ok []
  else if xs.length * n.toNat ≥ roomLimit then noRoom
  else .ok (List.replicate n.toNat xs).flatten

/-- A text over and over again. -/
def repeatedText (s : String) (n : Int) : Result String :=
  if fits sizeLimit n && s.length * n.toNat ≥ sizeLimit then overflow "repeated string is too long"
  else do return String.ofList (← repeated s.toList n)

/-- A sequence other than markup that can be repeated. -/
def repeat? (v : Value) (n : Int) : Option (Result Value) :=
  match v with
  | text s => some do return text (← repeatedText s n)
  | list xs => some do return list (← repeated xs n)
  | tuple xs => some do return tuple (← repeated xs n)
  | _ => Option.none

def isSequence : Value → Bool
  | text _ | markup _ | list _ | tuple _ => true
  | _ => false

def add (a b : Value) : Result Value :=
  match a, b with
  | text s, text t => .ok (text (s ++ t))
  | markup s, markup t => .ok (markup (s ++ t))
  | markup s, text t => .ok (markup (s ++ Text.escapeMarkup t))
  | text s, markup t => .ok (markup (Text.escapeMarkup s ++ t))
  | list xs, list ys => .ok (list (xs ++ ys))
  | tuple xs, tuple ys => .ok (tuple (xs ++ ys))
  | a, b =>
    match operandFailure? a b, numberOperation? .add a b with
    | some f, _ => .error f
    | _, some r => r
    | _, _ =>
      match a with
      | text _ | list _ | tuple _ => notJoinable a b
      | _ => unsupported "+" a b

/-- Repeats markup, which takes its other operand for a number of times whatever it is. -/
def repeatMarkup (s : String) (times : Value) : Result Value := do
  return markup (← repeatedText s (← times.toIndex))

def mul (a b : Value) : Result Value :=
  match a, b with
  | absent a, _ => .error a.failure
  | markup s, v | v, markup s => repeatMarkup s v
  | _, _ =>
    match operandFailure? a b, numberOperation? .mul a b with
    | some f, _ => .error f
    | _, some r => r
    | _, _ =>
      match b.int?, a.int? with
      | some n, _ => (a.repeat? n).getD (unsupported "*" a b)
      | _, some n => (b.repeat? n).getD (unsupported "*" a b)
      | _, _ =>
        if a.isSequence then
          typeError s!"can't multiply sequence by non-int of type '{b.typeName}'"
        else if b.isSequence then
          typeError s!"can't multiply sequence by non-int of type '{a.typeName}'"
        else unsupported "*" a b

/-- A binary operator. -/
def operate (op : Operation) (a b : Value) : Result Value :=
  match op, a with
  | .add, _ => add a b
  | .mul, _ => mul a b
  | .mod, text s => do return text (← Percent.fill false s b)
  | .mod, markup s => do return markup (← Percent.fill true s b)
  | .sub, absent a => .error a.failure
  | op, a =>
    if op = .sub && haveDifference a b then difference a b
    else
      match operandFailure? a b, numberOperation? op a b with
      | some f, _ => .error f
      | _, some r => r
      | _, _ => unsupported op.symbol a b

def negate : Value → Result Value
  | float x => .ok (float (-x))
  | complex re im => .ok (complex (-re) (-im))
  | absent a => .error a.failure
  | v =>
    match v.int? with
    | some n => .ok (int (-n))
    | Option.none => typeError s!"bad operand type for unary -: '{v.typeName}'"

def plus : Value → Result Value
  | float x => .ok (float x)
  | complex re im => .ok (complex re im)
  | absent a => .error a.failure
  | v =>
    match v.int? with
    | some n => .ok (int n)
    | Option.none => typeError s!"bad operand type for unary +: '{v.typeName}'"

/-- The texts of all values, joined. -/
def joinTexts (vs : List Value) : Result Value := do
  return text (String.join (← vs.mapM toText))

end Value

end Stencil.Expr
