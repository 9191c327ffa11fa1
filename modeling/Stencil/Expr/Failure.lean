import Stencil.Error

/-!
# Failures of an expression

Why an expression has no value. What failed decides who may recover: a look-up that fails for want of a
key yields an absent value, a conversion that fails for its argument falls back to a default. The message of a
failure is made when it is asked for, and this may fail in turn.
-/
namespace Stencil.Expr

/-- The text of a failure, or what is raised where it is asked for. -/
inductive Message where
  | told (text : String)
  | untold (stray : Stray)
  deriving DecidableEq, Repr

instance : Coe String Message := ⟨.told⟩

/-- Can the text be had? -/
def Message.IsTold : Message → Prop
  | told _ => True
  | untold _ => False

/-- What is seen of a failure that nobody reports. -/
def Message.shown : Message → String
  | told text => text
  | untold _ => "<exception str() failed>"

/-- The kind of mistake that an operation reports. -/
inductive Fault where
  | type
  | value
  | index
  | key
  | attribute
  | zeroDivision
  | overflow
  | name
  | assertion
  | engine
  deriving DecidableEq, Repr

/-- An absent value was used, an operation was refused for safety, or an operation failed. -/
inductive Failure where
  | undefined (message : Message)
  | rejected (message : Message)
  | raised (fault : Fault) (message : Message)
  deriving DecidableEq, Repr

namespace Failure

def message : Failure → Message
  | undefined m | rejected m | raised _ m => m

/-- Is it a failed look-up, after which the value is absent? -/
def isMissing : Failure → Bool
  | raised .type _ | raised .index _ | raised .key _ => true
  | _ => false

/-- Is it an unsuitable argument, after which a conversion takes its default? -/
def isUnsuitable : Failure → Bool
  | raised .type _ | raised .value _ => true
  | _ => false

/-- The failure as it comes out where nobody reports it. -/
def stray (f : Failure) : Stray where
  fault := match f with
    | undefined _ => .undefinedName
    | rejected _ => .rejected
    | raised .value _ => .badValue
    | raised .. => .badType
  detail := f.message.shown

/-- A failure that was stray. -/
def ofStray (s : Stray) : Failure :=
  match s.fault with
  | .undefinedName => undefined s.detail
  | .rejected => rejected s.detail
  | .badValue => raised .value s.detail
  | .badType | .badForm => raised .type s.detail

end Failure

/-- Why an expression cannot be evaluated at all: its syntax is wrong, it has no form that can be run, or a
constant part of it fails. -/
inductive Refusal where
  | badSyntax (message : Message)
  | badForm (message : String)
  | failed (f : Failure)
  deriving DecidableEq, Repr

abbrev Result (α : Type) := Except Failure α

/-- The message that a text makes, if it can be had. -/
def Message.ofResult : Result String → Message
  | .ok text => told text
  | .error f => untold f.stray

def typeError {α : Type} (message : String) : Result α := .error (.raised .type message)

def valueError {α : Type} (message : String) : Result α := .error (.raised .value message)

def overflow {α : Type} (message : String) : Result α := .error (.raised .overflow message)

end Stencil.Expr
