import Stencil.Expr.Show
import Stencil.Expr.Compare

/-!
# Looking up parts of a value

Attributes, items and slices. A part that is not there is an absent value, not a failure; so is an
attribute that expressions must not see, whose use is refused. Only absent values themselves have no parts
at all.
-/
namespace Stencil.Expr

open Text (quote words)

namespace Value

/-! ### Names of attributes -/

def commonInner : List String := words
  ["__class__ __delattr__ __dir__ __doc__ __eq__ __format__ __ge__ __getattribute__ __getstate__",
   "__gt__ __hash__ __init__ __init_subclass__ __le__ __lt__ __ne__ __new__ __reduce__",
   "__reduce_ex__ __repr__ __setattr__ __sizeof__ __str__ __subclasshook__"]

def numberInner : List String := words
  ["__abs__ __add__ __bool__ __divmod__ __float__ __floordiv__ __getnewargs__ __int__ __mod__",
   "__mul__ __neg__ __pos__ __pow__ __radd__ __rdivmod__ __rfloordiv__ __rmod__ __rmul__",
   "__round__ __rpow__ __rsub__ __rtruediv__ __sub__ __truediv__ __trunc__ __ceil__ __floor__"]

def integerInner : List String := numberInner ++ words
  ["__and__ __index__ __invert__ __lshift__ __or__ __rand__ __rlshift__ __ror__ __rrshift__",
   "__rshift__ __rxor__ __xor__"]

def sequenceInner : List String := words
  ["__add__ __contains__ __getitem__ __iter__ __len__ __mul__ __rmul__"]

def textMethods : List String := words
  ["capitalize casefold center count endswith expandtabs find format format_map index isalnum",
   "isalpha isascii isdecimal isdigit isidentifier islower isnumeric isprintable isspace istitle",
   "isupper join ljust lower lstrip partition removeprefix removesuffix replace rfind rindex rjust",
   "rpartition rsplit rstrip split splitlines startswith strip swapcase title upper zfill"]

def listMethods : List String := words
  ["append clear copy count extend index insert pop remove reverse"]

def dictMethods : List String := words
  ["clear copy get items keys pop popitem setdefault values"]

def setMethods : List String := words
  ["add clear copy difference difference_update discard intersection intersection_update isdisjoint",
   "issubset issuperset pop remove symmetric_difference symmetric_difference_update union update"]

def integerMethods : List String := words
  ["as_integer_ratio bit_count bit_length conjugate"]

def floatMethods : List String := words ["as_integer_ratio conjugate is_integer"]

/-- The methods that expressions may call. -/
def methodNames : Value → List String
  | text _ => textMethods
  | markup _ => textMethods ++ ["escape", "striptags", "unescape"]
  | list _ => listMethods
  | tuple _ => ["count", "index"]
  | dict _ => dictMethods
  | set _ => setMethods
  | int _ | bool _ => integerMethods
  | float _ => floatMethods
  | complex .. => ["conjugate"]
  | view .values _ => []
  | view .. => ["isdisjoint"]
  | none | absent _ | method .. | formatter .. | slice .. | stream .. | template => []

/-- The attributes that values of a kind have beside the common ones and that expressions must not
see. -/
def innerNames : Value → List String
  | text _ => sequenceInner ++ words ["__getnewargs__ __mod__ __rmod__"]
  | markup _ => sequenceInner ++ words
    ["__getnewargs__ __mod__ __rmod__ __html__ __html_format__ __module__ __slots__ __radd__"]
  | list _ => sequenceInner ++ words
    ["__class_getitem__ __delitem__ __iadd__ __imul__ __reversed__ __setitem__"]
  | tuple _ => sequenceInner ++ words ["__class_getitem__ __getnewargs__"]
  | dict _ => words
    ["__class_getitem__ __contains__ __delitem__ __getitem__ __ior__ __iter__ __len__ __or__",
     "__reversed__ __ror__ __setitem__"]
  | set _ => words
    ["__and__ __class_getitem__ __contains__ __iand__ __ior__ __isub__ __iter__ __ixor__ __len__",
     "__or__ __rand__ __ror__ __rsub__ __rxor__ __sub__ __xor__"]
  | int _ | bool _ => integerInner
  | float _ => numberInner ++ ["__getformat__"]
  | complex .. => numberInner ++ ["__complex__"]
  | none => ["__bool__"]
  | stream "generator" .. => words
    ["__del__ __iter__ __name__ __next__ __qualname__ gi_code gi_frame"]
  | stream .. => words ["__iter__ __length_hint__ __next__ __setstate__"]
  | method .. => words ["__call__ __module__ __name__ __qualname__ __self__ __text_signature__"]
  | formatter .. => words
    ["__annotations__ __builtins__ __call__ __closure__ __code__ __defaults__ __dict__ __get__",
     "__globals__ __kwdefaults__ __module__ __name__ __qualname__ __wrapped__"]
  | view .. => words ["__contains__ __iter__ __len__ __reversed__ __and__ __or__ __sub__ __xor__"]
  | absent _ => sequenceInner ++ numberInner ++ words
    ["__bool__ __call__ __complex__ __getattr__ __module__ __slots__"]
  | slice .. => []
  | template => words ["__dict__ __getitem__ __module__ __weakref__ _TemplateReference__context"]

/-- Attributes that are plain values. -/
def field? : Value → String → Option Value
  | int n, "real" | int n, "numerator" => some (int n)
  | int _, "imag" => some (int 0)
  | int _, "denominator" => some (int 1)
  | bool b, "real" | bool b, "numerator" => some (int (if b then 1 else 0))
  | bool _, "imag" => some (int 0)
  | bool _, "denominator" => some (int 1)
  | float x, "real" => some (float x)
  | float _, "imag" => some (float 0)
  | complex re _, "real" => some (float re)
  | complex _ im, "imag" => some (float im)
  | slice start _ _, "start" => some start
  | slice _ stop _, "stop" => some stop
  | slice _ _ step, "step" => some step
  | stream "generator" .., "gi_running" => some (bool false)
  | stream "generator" .., "gi_suspended" => some (bool false)
  | stream "generator" .., "gi_yieldfrom" => some none
  | _, _ => Option.none

inductive Attribute where
  | found (v : Value)
  | hidden
  | missing

/-- The attribute `name`, seen from an expression. -/
def attributeOf (v : Value) (name : String) : Attribute :=
  match v.field? name with
  | some w => .found w
  | Option.none =>
    if v.methodNames.contains name then
      if v.isText && name == "format" then .found (formatter v false)
      else if v.isText && name == "format_map" then .found (formatter v true)
      else .found (method v name .common)
    else if commonInner.contains name || v.innerNames.contains name then .hidden
    else .missing

/-! ### Parts that are not there -/

/-- A name that is bound to nothing. -/
def unbound (name : String) : Value :=
  absent ⟨quote name ++ " is undefined", true, false⟩

def noAttribute (v : Value) (name : String) : Value :=
  absent ⟨quote v.description ++ " has no attribute " ++ quote name, true, false⟩

/-- The call of a method that a value does not have. -/
def noMethod {α : Type} (v : Value) (name : String) : Result α :=
  .error (.undefined (quote v.description ++ " has no attribute " ++ quote name))

/-- A text that is looked up in vain is called an attribute. -/
def noElement (v key : Value) : Value :=
  let start := if key.isText then quote v.description ++ " has no attribute "
    else v.description ++ " has no element "
  absent ⟨.ofResult do return start ++ (← key.literal), true, false⟩

def refused (v : Value) (name : String) : Value :=
  absent ⟨s!"access to attribute {quote name} of {quote v.typeName} object is unsafe.", true, true⟩

/-! ### Items and slices -/

/-- A place from the front, or from the back if negative. -/
def place? (n : Int) (size : Nat) : Option Nat :=
  let i := if n < 0 then n + size else n
  if 0 ≤ i && i < size then some i.toNat else Option.none

/-- An end of a slice: none, or an integer. -/
def sliceEnd : Value → Result (Option Int)
  | none => .ok Option.none
  | v =>
    match v.int? with
    | some n => .ok (some n)
    | Option.none => typeError "slice indices must be integers or None or have an __index__ method"

/-- An end of a slice within the bounds `low` and `high`. -/
def clamp (size : Nat) (low high : Int) (n : Int) : Int :=
  let n := if n < 0 then n + size else n
  max low (min high n)

/-- Every `step`-th place from `i` on, `count` of them. -/
def places (i step : Int) : Nat → List Nat
  | 0 => []
  | count + 1 => i.toNat :: places (i + step) step count

/-- The places that a slice takes of `size` ones. -/
def slicePlaces (size : Nat) (start stop step : Value) : Result (List Nat) := do
  let step := (← sliceEnd step).getD 1
  if step = 0 then valueError "slice step cannot be zero"
  let start ← sliceEnd start
  let stop ← sliceEnd stop
  if step > 0 then
    let i := (start.map (clamp size 0 size)).getD 0
    let j := (stop.map (clamp size 0 size)).getD size
    return places i step ((j - i + step - 1) / step).toNat
  else
    let i := (start.map (clamp size (-1) (size - 1))).getD (size - 1)
    let j := (stop.map (clamp size (-1) (size - 1))).getD (-1)
    return places i step ((i - j - step - 1) / (-step)).toNat

def pick {α : Type} (xs : List α) (start stop step : Value) : Result (List α) := do
  let items := xs.toArray
  return (← slicePlaces xs.length start stop step).filterMap (items[·]?)

def indexError {α : Type} (message : String) : Result α := .error (.raised .index message)

def pickText (s : String) (key : Value) : Result String :=
  match key with
  | slice start stop step => do return String.ofList (← pick s.toList start stop step)
  | key =>
    match key.int? with
    | Option.none => typeError s!"string indices must be integers, not '{key.typeName}'"
    | some n =>
      match (place? n s.length).bind (s.toList[·]?) with
      | some c => .ok c.toString
      | Option.none => indexError "string index out of range"

def pickItem (type : String) (xs : List Value) (key : Value) : Result Value :=
  match key.int? with
  | Option.none => typeError s!"{type} indices must be integers or slices, not {key.typeName}"
  | some n =>
    match (place? n xs.length).bind (xs[·]?) with
    | some x => .ok x
    | Option.none => indexError s!"{type} index out of range"

/-- The item that a key refers to. -/
def subscript (v key : Value) : Result Value :=
  match v, key with
  | text s, key => do return text (← pickText s key)
  | markup s, key => do return markup (← pickText s key)
  | list xs, slice start stop step => do return list (← pick xs start stop step)
  | tuple xs, slice start stop step => do return tuple (← pick xs start stop step)
  | list xs, key => pickItem "list" xs key
  | tuple xs, key => pickItem "tuple" xs key
  | dict entries, key => do
    key.checkKey
    match entryFor? key entries with
    | some w => return w
    | Option.none =>
      .error (.raised .key (.ofResult key.literal))
  | absent a, _ => .error a.failure
  | template, key => do
    .error (.raised .key (.ofResult key.literal))
  | v, _ => typeError s!"'{v.typeName}' object is not subscriptable"

/-- The attribute `name` of a value, else its entry. -/
def lookUpAttribute (v : Value) (name : String) : Result Value :=
  match v, v.attributeOf name with
  | _, .found w => .ok w
  | absent a, .missing => .error a.failure
  | _, .hidden => .ok (v.refused name)
  | _, .missing =>
    match v.subscript (text name) with
    | .ok w => .ok w
    | .error f => if f.isMissing then .ok (v.noAttribute name) else .error f

/-- The entry that a key refers to, else the attribute of that name. -/
def lookUpItem (v key : Value) : Result Value :=
  match v.subscript key with
  | .ok w => .ok w
  | .error f =>
    if f.isMissing then
      match key.text? with
      | some name =>
        match v.attributeOf name with
        | .found w => .ok w
        | .hidden => .ok (v.refused name)
        | .missing => .ok (v.noElement key)
      | Option.none => .ok (v.noElement key)
    else .error f

end Value

end Stencil.Expr
