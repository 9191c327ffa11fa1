import Stencil.Expr.Fields
import Stencil.Expr.Members
import Stencil.Expr.TextMethod

/-!
# Calling values

Methods of lists, tuples, dictionaries, sets and numbers, and the call of any value. Values do not change: a
method that would change its owner gives the value that it would give and nothing else.
-/
namespace Stencil.Expr

namespace Method

open Value (entryFor? checkKey equal)

def listShape? : String → Option Shape
  | "append" | "extend" | "count" | "remove" => some .one
  | "insert" => some (.between 2 2)
  | "index" => some (.between 1 3)
  | "pop" => some (.between 0 1)
  | "copy" | "reverse" | "clear" => some .nothing
  | _ => none

def dictShape? : String → Option Shape
  | "get" | "pop" | "setdefault" => some (.between 1 2)
  | "items" | "keys" | "values" | "copy" | "clear" | "popitem" => some .nothing
  | _ => none

def tupleShape? : String → Option Shape
  | "count" => some .one
  | "index" => some (.between 1 3)
  | _ => none

def setShape? : String → Option Shape
  | "add" | "discard" | "remove" | "isdisjoint" | "issubset" | "issuperset" | "symmetric_difference"
  | "symmetric_difference_update" => some .one
  | "union" | "intersection" | "difference" | "update" | "intersection_update" | "difference_update" =>
    some .any
  | "copy" | "clear" | "pop" => some .nothing
  | _ => none

def viewShape? : String → Option Shape
  | "isdisjoint" => some .one
  | _ => none

def numberShape? : String → Option Shape
  | "bit_length" | "bit_count" | "conjugate" | "as_integer_ratio" | "is_integer" => some .nothing
  | _ => none

/-- How many of the items equal `v`. -/
def countEqual (v : Value) : List Value → Result Nat
  | [] => .ok 0
  | x :: xs => do
    let here := if ← equal x v then 1 else 0
    return here + (← countEqual v xs)

/-- The place of the first item that equals `v`. -/
def firstEqual? (v : Value) (i : Nat) : List Value → Result (Option Nat)
  | [] => .ok none
  | x :: xs => do
    if ← equal x v then return some i else firstEqual? v (i + 1) xs

/-- An end of the part of a list that is searched. -/
def searchEnd (size default : Nat) : Option Value → Result Nat
  | none => .ok default
  | some v =>
    match v.int? with
    | some n => .ok (if n < 0 then (n + size).toNat else n.toNat)
    | none => typeError "slice indices must be integers or have an __index__ method"

def indexOf? (xs : List Value) (v : Value) (start stop : Option Value) : Result (Option Nat) := do
  let i ← searchEnd xs.length 0 start
  let j ← searchEnd xs.length xs.length stop
  firstEqual? v i ((xs.take j).drop i)

def ofList (xs : List Value) (name : String) (args : List (Option Value)) : Result Value := do
  match name, args with
  | "append", _ | "reverse", _ | "clear", _ => return .none
  | "copy", _ => return .list xs
  | "count", [some v] => return .int (← countEqual v xs)
  | "extend", [some v] =>
    let _ ← v.toList
    return .none
  | "insert", [some i, _] =>
    let _ ← i.toSize
    return .none
  | "remove", [some v] =>
    match ← firstEqual? v 0 xs with
    | some _ => return .none
    | none => valueError "list.remove(x): x not in list"
  | "index", [some v, start, stop] =>
    match ← indexOf? xs v start stop with
    | some i => return .int i
    | none =>
      let shown ← v.literal
      valueError s!"{shown} is not in list"
  | "pop", [i] =>
    let n ← match i with
      | none => pure (-1)
      | some v => v.toSize
    match xs, (Value.place? n xs.length).bind (xs[·]?) with
    | [], _ => Value.indexError "pop from empty list"
    | _, some x => return x
    | _, none => Value.indexError "pop index out of range"
  | _, _ => Value.noMethod (.list xs) name

def ofTuple (xs : List Value) (name : String) (args : List (Option Value)) : Result Value := do
  match name, args with
  | "count", [some v] => return .int (← countEqual v xs)
  | "index", [some v, start, stop] =>
    match ← indexOf? xs v start stop with
    | some i => return .int i
    | none => valueError "tuple.index(x): x not in tuple"
  | _, _ => Value.noMethod (.tuple xs) name

def ofDict (entries : List (Value × Value)) (name : String) (args : List (Option Value)) :
    Result Value := do
  match name, args with
  | "items", _ => return .view .items entries
  | "keys", _ => return .view .keys entries
  | "values", _ => return .view .values entries
  | "copy", _ => return .dict entries
  | "clear", _ => return .none
  | "get", [some key, default] | "setdefault", [some key, default] =>
    checkKey key
    return (entryFor? key entries).getD (default.getD .none)
  | "pop", [some key, default] =>
    checkKey key
    match entryFor? key entries, default with
    | some v, _ => return v
    | none, some v => return v
    | none, none =>
      .error (.raised .key (.ofResult key.literal))
  | "popitem", _ =>
    match entries.getLast? with
    | some entry => return Value.ofEntry entry
    | none => .error (.raised .key "'popitem(): dictionary is empty'")
  | _, _ => Value.noMethod (.dict entries) name

def ofSet (xs : List Value) (name : String) (args : List (Option Value)) : Result Value := do
  let others := args.filterMap id
  match name, others with
  | "copy", _ => return .set xs
  | "clear", _ => return .none
  | "add", [v] =>
    checkKey v
    return .none
  | "discard", [v] =>
    let _ ← Value.contains v (.set xs)
    return .none
  | "remove", [v] =>
    if ← Value.contains v (.set xs) then return .none
    .error (.raised .key (.ofResult v.literal))
  | "pop", _ =>
    match xs with
    | x :: _ => return x
    | [] => .error (.raised .key "'pop from an empty set'")
  | "union", vs => vs.foldlM Value.union (.set xs)
  | "intersection", vs => vs.foldlM Value.intersection (.set xs)
  | "difference", vs => vs.foldlM Value.difference (.set xs)
  | "symmetric_difference", [v] => Value.symmetricDifference (.set xs) v
  | "update", vs | "intersection_update", vs | "difference_update", vs
  | "symmetric_difference_update", vs =>
    let _ ← vs.mapM Value.keyItems
    return .none
  | "isdisjoint", [v] => return .bool (← Value.isDisjoint (.set xs) v)
  | "issubset", [v] =>
    let ys ← v.keyItems
    return .bool (Value.without xs ys).isEmpty
  | "issuperset", [v] => return .bool (Value.without (← v.keyItems) xs).isEmpty
  | _, _ => Value.noMethod (.set xs) name

def ofNumber (v : Value) (name : String) : Result Value :=
  match name, v, v.int? with
  | "bit_length", _, some n => .ok (.int (if n = 0 then 0 else n.natAbs.log2 + 1))
  | "bit_count", _, some n => .ok (.int ((Nat.toDigits 2 n.natAbs).count '1'))
  | "conjugate", _, some n => .ok (.int n)
  | "conjugate", .complex re im, _ => .ok (.complex re (-im))
  | "conjugate", _, none => .ok v
  | "as_integer_ratio", _, some n => .ok (.tuple [.int n, .int 1])
  | "as_integer_ratio", .float x, _ =>
    match Decimal.fraction? x with
    | some (p, q) =>
      let g := Nat.gcd p.natAbs q
      .ok (.tuple [.int (p / g), .int (q / g)])
    | none => do
      let _ ← intOfFloat x
      .ok .none
  | "is_integer", .float x, _ => .ok (.bool (isFinite x && isWhole x))
  | _, _, _ => v.noMethod name

/-- Binds the arguments if the method is known. -/
def bound (shape? : Option Shape) (owner : Value) (name : String) (args : Arguments) :
    Result (List (Option Value)) :=
  match shape? with
  | some shape => shape.bind owner.typeName name args
  | none => owner.noMethod name

def call (owner : Value) (name : String) (args : Arguments) : Result Value := do
  match owner with
  | .text s => TextMethod.apply false s name (← bound (TextMethod.shape? name) owner name args)
  | .markup s =>
    match TextMethod.markupSignature? name with
    | some signature =>
      let values ← signature.bind ⟨owner :: args.positional, args.named⟩
      TextMethod.apply true s name ((values.drop 1).map some)
    | none => TextMethod.apply true s name (← bound (TextMethod.shape? name) owner name args)
  | .list xs => ofList xs name (← bound (listShape? name) owner name args)
  | .tuple xs => ofTuple xs name (← bound (tupleShape? name) owner name args)
  | .dict entries => ofDict entries name (← bound (dictShape? name) owner name args)
  | .set xs => ofSet xs name (← bound (setShape? name) owner name args)
  | .view .. =>
    match name, ← bound (viewShape? name) owner name args with
    | "isdisjoint", [some v] => return .bool (← Value.isDisjoint owner v)
    | _, _ => owner.noMethod name
  | v =>
    let _ ← bound (numberShape? name) owner name args
    ofNumber v name

/-- Fills the fields of a text by the arguments of the call. -/
def format (owner : Value) (fromMapping : Bool) (args : Arguments) : Result Value := do
  let given := args.positional.length
  let supply ← match fromMapping, args.named, args.positional with
    | true, _ :: _, _ => typeError "format_map() takes no keyword arguments"
    | true, [], [mapping] => pure ⟨[], mapping⟩
    | true, [], _ => typeError s!"format_map() takes exactly one argument ({given} given)"
    | false, named, positional =>
      pure ⟨positional, .dict (named.map fun (key, v) => (Value.text key, v))⟩
  match owner with
  | .markup s => return .markup (← Fields.fill true s supply)
  | v => return .text (← Fields.fill false (v.text?.getD "") supply)

end Method

/-- The value of a call. -/
def Value.call (callee : Value) (args : Arguments) : Result Value :=
  match callee with
  | method owner name _ => Method.call owner name args
  | formatter owner fromMapping => Method.format owner fromMapping args
  | absent a => .error a.failure
  | v => typeError s!"'{v.typeName}' object is not callable"

end Stencil.Expr
