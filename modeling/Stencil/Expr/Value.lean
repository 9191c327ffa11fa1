import Stencil.Expr.Failure
import Stencil.Expr.Origin

/-!
# Values of expressions

Values do not change, and they have no identity: where it matters, their origin goes along with them. What is
looked up in vain is a value as well, the absent one: it knows the message to fail with as soon as somebody
uses it.
-/
namespace Stencil.Expr

/-- A value that is not there. Unless `strict`, it acts as an empty text wherever it is used; `refused`
ones fail as refused operations. -/
structure Absence where
  message : Message
  strict : Bool
  refused : Bool
  deriving DecidableEq, Repr

/-- The message of an absent value is made when it is used, and what that raises takes its place. -/
def Absence.failure (a : Absence) : Failure :=
  match a.message with
  | .untold stray => .ofStray stray
  | .told text => if a.refused then .rejected text else .undefined text

inductive ViewKind where
  | keys
  | values
  | items
  deriving DecidableEq, Repr

inductive Value where
  | none
  | bool (b : Bool)
  | int (n : Int)
  | float (x : Float)
  | complex (re im : Float)
  | text (s : String)
  /-- Text that is safe to stand in a page as it is. -/
  | markup (s : String)
  | list (xs : List Value)
  | tuple (xs : List Value)
  | dict (entries : List (Value × Value))
  /-- Items that can be keys, each one once. -/
  | set (items : List Value)
  | absent (a : Absence)
  /-- A method of a value, not yet called, and the origin of its owner. -/
  | method (owner : Value) (name : String) (ownerOrigin : Origin)
  /-- The method that fills the fields of a text, from arguments or from one mapping. -/
  | formatter (owner : Value) (fromMapping : Bool)
  /-- Items that come one by one, and the failure that ends them if one does. -/
  | stream (type : String) (items : List Value) (ending : Option Failure)
  | view (kind : ViewKind) (entries : List (Value × Value))
  | slice (start stop step : Value)
  /-- The template that an expression stands in. -/
  | template
  deriving Inhabited

namespace Value

/-- Methods that markup has of its own, so that their results are markup again. -/
def markupMethods : List String :=
  ["capitalize", "casefold", "center", "expandtabs", "join", "ljust", "lower", "lstrip", "partition",
    "removeprefix", "removesuffix", "replace", "rjust", "rpartition", "rsplit", "rstrip", "split",
    "splitlines", "strip", "striptags", "swapcase", "title", "translate", "unescape", "upper", "zfill",
    "escape"]

def typeName : Value → String
  | none => "NoneType"
  | bool _ => "bool"
  | int _ => "int"
  | float _ => "float"
  | complex .. => "complex"
  | text _ => "str"
  | markup _ => "Markup"
  | list _ => "list"
  | tuple _ => "tuple"
  | dict _ => "dict"
  | set _ => "set"
  | absent a => if a.strict then "StrictUndefined" else "Undefined"
  | method (markup _) name _ =>
    if markupMethods.contains name then "method" else "builtin_function_or_method"
  | method .. => "builtin_function_or_method"
  | formatter .. => "function"
  | stream type .. => type
  | view .keys _ => "dict_keys"
  | view .values _ => "dict_values"
  | view .items _ => "dict_items"
  | slice .. => "slice"
  | template => "TemplateReference"

/-- How a message names what something was looked up in. -/
def description : Value → String
  | none => "None"
  | markup _ => "markupsafe.Markup object"
  | absent a => s!"jinja2.runtime.{(absent a).typeName} object"
  | template => "jinja2.runtime.TemplateReference object"
  | v => v.typeName ++ " object"

/-- The characters of text or markup. -/
def text? : Value → Option String
  | text s | markup s => some s
  | _ => Option.none

def isText (v : Value) : Bool := v.text?.isSome

/-- The integer that stands for a value where an integer is called for. -/
def int? : Value → Option Int
  | int n => some n
  | bool b => some (if b then 1 else 0)
  | _ => Option.none

def ofEntry (entry : Value × Value) : Value := tuple [entry.1, entry.2]

def View.items (kind : ViewKind) (entries : List (Value × Value)) : List Value :=
  match kind with
  | .keys => entries.map (·.1)
  | .values => entries.map (·.2)
  | .items => entries.map ofEntry

/-- The members of a set, or of a view of keys or of entries, which act as sets. -/
def members? : Value → Option (List Value)
  | set xs => some xs
  | view .keys entries => some (View.items .keys entries)
  | view .items entries => some (View.items .items entries)
  | _ => Option.none

/-- Does a condition take the value for true? -/
def truth : Value → Result Bool
  | none => .ok false
  | bool b => .ok b
  | int n => .ok (n != 0)
  | float x => .ok !(x == 0)
  | complex re im => .ok !(re == 0 && im == 0)
  | text s | markup s => .ok (s != "")
  | list xs | tuple xs | set xs => .ok !xs.isEmpty
  | dict entries | view _ entries => .ok !entries.isEmpty
  | absent a => if a.strict then .error a.failure else .ok false
  | method .. | formatter .. | stream .. | slice .. | template => .ok true

/-- The items that a loop over the value meets, and the failure that ends the loop if one does. -/
def items : Value → Result (List Value × Option Failure)
  | text s | markup s => .ok (s.toList.map fun c => text c.toString, Option.none)
  | list xs | tuple xs | set xs => .ok (xs, Option.none)
  | dict entries => .ok (entries.map (·.1), Option.none)
  | view kind entries => .ok (View.items kind entries, Option.none)
  | stream _ xs ending => .ok (xs, ending)
  | absent a => if a.strict then .error a.failure else .ok ([], Option.none)
  | v => typeError s!"'{v.typeName}' object is not iterable"

/-- All items, if the loop comes to its end. -/
def toList (v : Value) : Result (List Value) := do
  match ← v.items with
  | (xs, Option.none) => .ok xs
  | (_, some f) => .error f

def length : Value → Result Nat
  | text s | markup s => .ok s.length
  | list xs | tuple xs | set xs => .ok xs.length
  | dict entries | view _ entries => .ok entries.length
  | absent a => if a.strict then .error a.failure else .ok 0
  | v => typeError s!"object of type '{v.typeName}' has no len()"

end Value

end Stencil.Expr
