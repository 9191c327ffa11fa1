import Stencil.Expr.Access
import Stencil.Expr.Arguments
import Stencil.Expr.Arithmetic
import Stencil.Text.Case

/-!
# Tests

The questions that `is` asks of a value, by name, and how a test or a filter takes its arguments.
-/
namespace Stencil.Expr

/-- How a test or a filter takes its arguments, the value in question first. -/
inductive Interface where
  | named (signature : Signature)
  /-- Just the value. -/
  | single (name : String)
  /-- The value and one more, in the wording of the operators. -/
  | pair (name : String)

/-- The arguments at their places. -/
def Interface.bind (i : Interface) (args : Arguments) : Result (List Value) :=
  let given := args.positional.length
  match i with
  | named s => s.bind args
  | single name =>
    if !args.named.isEmpty then typeError s!"{name}() takes no keyword arguments"
    else if given = 1 then .ok args.positional
    else typeError s!"{name}() takes exactly one argument ({given} given)"
  | pair name =>
    if !args.named.isEmpty then typeError s!"_operator.{name}() takes no keyword arguments"
    else if given = 2 then .ok args.positional
    else typeError s!"{name} expected 2 arguments, got {given}"

def signature (name : String) (hidden : List String) (parameters : List Parameter) : Interface :=
  .named ⟨name, hidden, parameters⟩

/-- The names of all filters. -/
def filterNames : List String :=
  Text.words
    ["abs capitalize center count d default e escape first float forceescape format indent int items",
     "join last length list lower map max min reject rejectattr replace reverse round safe select",
     "selectattr sort string striptags sum title trim truncate unique upper wordcount"]

namespace Test

def onValue (name : String) : Option Interface := some (signature ("test_" ++ name) [] [required "value"])

def interface? : String → Option Interface
  | "odd" => onValue "odd"
  | "even" => onValue "even"
  | "defined" => onValue "defined"
  | "undefined" => onValue "undefined"
  | "none" => onValue "none"
  | "boolean" => onValue "boolean"
  | "false" => onValue "false"
  | "true" => onValue "true"
  | "integer" => onValue "integer"
  | "float" => onValue "float"
  | "lower" => onValue "lower"
  | "upper" => onValue "upper"
  | "string" => onValue "string"
  | "mapping" => onValue "mapping"
  | "number" => onValue "number"
  | "sequence" => onValue "sequence"
  | "iterable" => onValue "iterable"
  | "escaped" => onValue "escaped"
  | "divisibleby" => some (signature "test_divisibleby" [] [required "value", required "num"])
  | "sameas" => some (signature "test_sameas" [] [required "value", required "other"])
  | "in" => some (signature "test_in" [] [required "value", required "seq"])
  | "filter" => some (signature "test_filter" ["env"] [required "value"])
  | "test" => some (signature "test_test" ["env"] [required "value"])
  | "callable" => some (.single "callable")
  | "==" | "eq" | "equalto" => some (.pair "eq")
  | "!=" | "ne" => some (.pair "ne")
  | ">" | "gt" | "greaterthan" => some (.pair "gt")
  | ">=" | "ge" => some (.pair "ge")
  | "<" | "lt" | "lessthan" => some (.pair "lt")
  | "<=" | "le" => some (.pair "le")
  | _ => none

/-- Is the value one of the names? -/
def isName (v : Value) (known : String → Bool) : Result Bool := do
  v.checkKey
  return (v.text?.map known).getD false

def remainderIs (v by_ : Value) (n : Int) : Result Bool := do
  Value.equal (← Value.operate .mod v by_) (.int n)

def isSequence (v : Value) : Bool :=
  match v with
  | .view .. | .set _ => false
  | v =>
    match v.length with
    | .ok _ => true
    | .error _ => false

def isIterable (v : Value) : Result Bool :=
  match v, v.items with
  | .template, _ | _, .ok _ => .ok true
  | _, .error (.raised .type _) => .ok false
  | _, .error f => .error f

def question (name : String) (args : List Value) : Result Bool :=
  match name, args with
  | "odd", [v] => remainderIs v (.int 2) 1
  | "even", [v] => remainderIs v (.int 2) 0
  | "divisibleby", [v, n] => remainderIs v n 0
  | "defined", [.absent _] => .ok false
  | "defined", _ => .ok true
  | "undefined", [.absent _] => .ok true
  | "undefined", _ => .ok false
  | "none", [.none] => .ok true
  | "boolean", [.bool _] => .ok true
  | "true", [.bool b] => .ok b
  | "false", [.bool b] => .ok !b
  | "integer", [.int _] => .ok true
  | "float", [.float _] => .ok true
  | "number", [.int _] | "number", [.bool _] | "number", [.float _] | "number", [.complex ..] =>
    .ok true
  | "string", [v] => .ok v.isText
  | "escaped", [.markup _] => .ok true
  | "mapping", [.dict _] => .ok true
  | "callable", [.method ..] | "callable", [.formatter ..] | "callable", [.absent _] => .ok true
  | "lower", [v] => do return Text.isLowerText (← v.toText)
  | "upper", [v] => do return Text.isUpperText (← v.toText)
  | "sequence", [v] => .ok (isSequence v)
  | "iterable", [v] => isIterable v
  | "filter", [v] => isName v filterNames.contains
  | "test", [v] => isName v fun s => (interface? s).isSome
  | "sameas", [a, b] => .ok (Traced.same ⟨a, .common⟩ ⟨b, .common⟩)
  | "in", [v, c] => Value.contains v c
  | "==", [a, b] | "eq", [a, b] | "equalto", [a, b] => Value.equal a b
  | "!=", [a, b] | "ne", [a, b] => do return !(← Value.equal a b)
  | ">", [a, b] | "gt", [a, b] | "greaterthan", [a, b] => Value.ordered .gt a b
  | ">=", [a, b] | "ge", [a, b] => Value.ordered .ge a b
  | "<", [a, b] | "lt", [a, b] | "lessthan", [a, b] => Value.ordered .lt a b
  | "<=", [a, b] | "le", [a, b] => Value.ordered .le a b
  | _, _ => .ok false

/-- Asks a known test of its first argument. -/
def ask (name : String) (i : Interface) (args : Arguments) : Result Bool := do
  question name (← i.bind args)

end Test

end Stencil.Expr
