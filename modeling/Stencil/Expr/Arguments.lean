import Stencil.Expr.Show

/-!
# Passing arguments

A call passes arguments by place and by name; a callable says which it takes. Methods know how many
arguments they take, and a few know names for them. Filters and tests have named parameters, some with a
value to fall back on, and the engine itself may supply the first ones.
-/
namespace Stencil.Expr

structure Arguments where
  positional : List Value
  named : List (String × Value)

def plural (n : Nat) : String := if n = 1 then "" else "s"

/-! ### Methods -/

/-- How many arguments a method takes. -/
inductive Shape where
  | nothing
  | one
  | any
  /-- From `low` to `high` arguments. -/
  | between (low high : Nat)
  /-- From `low` to `high` arguments, in the wording of the searching methods. -/
  | searching (low high : Nat)
  /-- Arguments that may be passed by name, none of them required. -/
  | keyed (names : List String)

namespace Shape

def countError {α : Type} (name bound : String) (n given : Nat) : Result α :=
  typeError s!"{name} expected {bound}{n} argument{plural n}, got {given}"

def searchError {α : Type} (name bound : String) (n given : Nat) : Result α :=
  typeError s!"{name}() takes {bound} {n} argument{plural n} ({given} given)"

/-- Puts the arguments passed by name to their places. -/
def fillNamed (name : String) (places : List (String × Option Value)) (count : Nat) :
    List (String × Value) → Result (List (Option Value))
  | [] => .ok (places.map (·.2))
  | (key, v) :: rest =>
    match places.findIdx? (·.1 == key) with
    | none => typeError s!"'{key}' is an invalid keyword argument for {name}()"
    | some i =>
      if i < count then
        typeError s!"argument for {name}() given by name ('{key}') and position ({i + 1})"
      else
        fillNamed name (places.map fun p => if p.1 == key then (key, some v) else p) count rest

/-- The arguments at their places, or why they do not fit. -/
def bind (shape : Shape) (owner name : String) (args : Arguments) : Result (List (Option Value)) :=
  let given := args.positional.length
  let whole := owner ++ "." ++ name
  match shape, args.named with
  | keyed names, named =>
    let total := given + named.length
    if total > names.length then
      let kind := if given = 0 then "keyword " else ""
      let most := names.length
      typeError s!"{name}() takes at most {most} {kind}argument{plural most} ({total} given)"
    else
      let values := args.positional.map some ++ List.replicate (names.length - given) none
      fillNamed name (names.zip values) given named
  | searching .., _ :: _ => typeError s!"{name}() takes no keyword arguments"
  | _, _ :: _ => typeError s!"{whole}() takes no keyword arguments"
  | nothing, [] =>
    if given = 0 then .ok [] else typeError s!"{whole}() takes no arguments ({given} given)"
  | one, [] =>
    if given = 1 then .ok (args.positional.map some)
    else typeError s!"{whole}() takes exactly one argument ({given} given)"
  | any, [] => .ok (args.positional.map some)
  | between low high, [] =>
    if low = high && given != low then countError name "" low given
    else if given < low then countError name "at least " low given
    else if given > high then countError name "at most " high given
    else .ok (args.positional.map some ++ List.replicate (high - given) none)
  | searching low high, [] =>
    if given < low then searchError name "at least" low given
    else if given > high then searchError name "at most" high given
    else .ok (args.positional.map some ++ List.replicate (high - given) none)

end Shape

/-! ### Filters and tests -/

/-- A parameter, the value that it falls back on, and whether it may be passed by name. -/
structure Parameter where
  name : String
  default : Option Value
  byName : Bool

def required (name : String) : Parameter := ⟨name, none, true⟩

def optional (name : String) (default : Value) : Parameter := ⟨name, some default, true⟩

/-- The parameter, to be passed by place alone. -/
def Parameter.byPlace (p : Parameter) : Parameter := { p with byName := false }

/-- A callable with named parameters. `hidden` are the first ones, which the engine supplies. -/
structure Signature where
  name : String
  hidden : List String
  parameters : List Parameter

namespace Signature

/-- `'a'`, `'a' and 'b'`, `'a', 'b', and 'c'`. -/
def listing : List String → String
  | [] => ""
  | [a] => s!"'{a}'"
  | [a, b] => s!"'{a}' and '{b}'"
  | names =>
    String.intercalate ", " ((names.dropLast).map fun a => s!"'{a}'")
      ++ ", and '" ++ names.getLast?.getD "" ++ "'"

/-- How many arguments by place are accepted, and how many were passed. -/
def tooMany {α : Type} (s : Signature) (given : Nat) : Result α :=
  let most := s.hidden.length + s.parameters.length
  let spare := (s.parameters.filter (·.default.isSome)).length
  let takes :=
    if spare = 0 then s!"{most} positional argument{plural most}"
    else s!"from {most - spare} to {most} positional arguments"
  let were := if given = 1 then "was" else "were"
  typeError s!"{s.name}() takes {takes} but {given} {were} given"

/-- Refuses the argument `key`, one of those passed by name, which no parameter takes. -/
def unexpected {α : Type} (s : Signature) (given : List (String × Value)) (key : String) : Result α :=
  let placed := s.parameters.filter fun p => !p.byName && given.any (·.1 == p.name)
  if placed.isEmpty then typeError s!"{s.name}() got an unexpected keyword argument '{key}'"
  else
    let names := String.intercalate ", " (placed.map (·.name))
    typeError
      s!"{s.name}() got some positional-only arguments passed as keyword arguments: '{names}'"

/-- Binds the arguments passed by name; `given` are all of them. -/
def bindNamed (s : Signature) (given : List (String × Value))
    (slots : List (Parameter × Option Value)) :
    List (String × Value) → Result (List (Parameter × Option Value))
  | [] => .ok slots
  | (key, v) :: rest =>
    if s.hidden.contains key then typeError s!"{s.name}() got multiple values for argument '{key}'"
    else
      match slots.find? fun p => p.1.byName && p.1.name == key with
      | none => s.unexpected given key
      | some (_, some _) => typeError s!"{s.name}() got multiple values for argument '{key}'"
      | some (_, none) =>
        bindNamed s given (slots.map fun p => if p.1.name == key then (p.1, some v) else p) rest

/-- The values of all parameters, in their order. -/
def bind (s : Signature) (args : Arguments) : Result (List Value) := do
  let given := args.positional.length
  let values := args.positional.map some ++ List.replicate (s.parameters.length - given) none
  let slots ← s.bindNamed args.named (s.parameters.zip values) args.named
  if given > s.parameters.length then s.tooMany (s.hidden.length + given)
  let missing := (slots.filter fun p => p.2.isNone && p.1.default.isNone).map (·.1.name)
  if !missing.isEmpty then
    let n := missing.length
    let names := listing missing
    typeError s!"{s.name}() missing {n} required positional argument{plural n}: {names}"
  return slots.filterMap fun p => p.2 <|> p.1.default

end Signature

end Stencil.Expr
