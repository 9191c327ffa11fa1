import Stencil.Decimal.Binary
import Stencil.Expr.Traced
import Stencil.Text.Split

/-!
# Comparing values

Equality of all values, keys of dictionaries, order, and membership. Numbers compare by what they are
worth, whatever their kind; text and markup compare as text; sets are ordered by inclusion. Strict absent
values fail when compared.
-/
namespace Stencil.Expr

open Decimal (compareInt)

inductive Order where
  | lt
  | le
  | gt
  | ge
  deriving DecidableEq, Repr

namespace Order

def symbol : Order → String
  | lt => "<"
  | le => "<="
  | gt => ">"
  | ge => ">="

def holds : Order → Ordering → Bool
  | lt, o => o == .lt
  | le, o => o != .gt
  | gt, o => o == .gt
  | ge, o => o != .lt

end Order

def compareFloats (x y : Float) : Option Ordering :=
  if x < y then some .lt else if x == y then some .eq else if x > y then some .gt else none

namespace Value

/-- The order of two numbers; none if one of them is no number or not comparable. -/
def compareNumbers (a b : Value) : Option (Option Ordering) :=
  match a.int?, b.int?, a, b with
  | some m, some n, _, _ => some (some (compare m n))
  | some m, _, _, float y => some (compareInt m y)
  | _, some n, float x, _ => some ((compareInt n x).map Ordering.swap)
  | _, _, float x, float y => some (compareFloats x y)
  | _, _, _, _ => Option.none

/-- The two parts of a complex number; the second is zero in any other one. -/
def parts? : Value → Option (Value × Float)
  | complex re im => some (float re, im)
  | float x => some (float x, 0)
  | v => v.int?.map fun n => (int n, 0)

/-- Equality of numbers. -/
def equalNumbers (a b : Value) : Bool :=
  match a.parts?, b.parts? with
  | some (x, p), some (y, q) => p == q && compareNumbers x y == some (some .eq)
  | _, _ => false

mutual
/-- Are two keys of a dictionary the same key? -/
def sameKey : Value → Value → Bool
  | none, none => true
  | tuple xs, tuple ys => sameKeys xs ys
  | absent a, absent b => !a.strict && !b.strict
  | template, template => true
  | method a m o, method b n p => m == n && Traced.same ⟨a, o⟩ ⟨b, p⟩
  | a, b =>
    match a.text?, b.text? with
    | some s, some t => s == t
    | _, _ => equalNumbers a b

def sameKeys : List Value → List Value → Bool
  | [], [] => true
  | x :: xs, y :: ys => sameKey x y && sameKeys xs ys
  | _, _ => false
end

mutual
/-- Fails unless the value can be a key of a dictionary. -/
def checkKey : Value → Result Unit
  | tuple xs => checkKeys xs
  | absent a => if a.strict then .error a.failure else .ok ()
  | v@(list _) | v@(dict _) | v@(set _) | v@(view .keys _) | v@(view .items _) | v@(slice ..) =>
    typeError s!"unhashable type: '{v.typeName}'"
  | _ => .ok ()

def checkKeys : List Value → Result Unit
  | [] => .ok ()
  | x :: xs => do
    checkKey x
    checkKeys xs
end

def entryFor? (key : Value) (entries : List (Value × Value)) : Option Value :=
  (entries.find? fun entry => sameKey entry.1 key).map (·.2)

/-- Binds a key. A key that is bound already keeps its place. -/
def insertEntry (key value : Value) : List (Value × Value) → List (Value × Value)
  | [] => [(key, value)]
  | (k, v) :: rest =>
    if sameKey k key then (k, value) :: rest else (k, v) :: insertEntry key value rest

/-- A dictionary from its entries in order; the last value of a key counts. -/
def dictOf (entries : List (Value × Value)) : Result Value := do
  entries.forM fun entry => checkKey entry.1
  return dict (entries.foldl (fun done entry => insertEntry entry.1 entry.2 done) [])

/-- Is `v` a member of a set or of a view that acts as one? The value of an entry counts as a key here. -/
def hasKey (c v : Value) : Result Bool :=
  match c, v with
  | view .items entries, tuple [k, w] => do
    checkKey k
    return ((entryFor? k entries).map (sameKey · w)).getD false
  | view .items _, _ => .ok false
  | c, v => do
    checkKey v
    return ((c.members?.getD []).any (sameKey · v))

mutual
def equal : Value → Value → Result Bool
  | absent a, b =>
    if a.strict then .error a.failure
    else
      match b with
      | absent b => if b.strict then .error b.failure else .ok true
      | _ => .ok false
  | a, absent b => do
    let _ := a
    if b.strict then .error b.failure else .ok false
  | list xs, list ys | tuple xs, tuple ys =>
    if xs.length = ys.length then equalAll xs ys else .ok false
  | dict xs, dict ys => if xs.length = ys.length then entriesIn xs ys else .ok false
  | view .items xs, view .items ys => if xs.length = ys.length then entriesIn xs ys else .ok false
  | a, b =>
    match a.members?, b.members? with
    | some xs, some ys => if xs.length = ys.length then xs.allM (hasKey b) else .ok false
    | _, _ => .ok (sameKey a b)

def equalAll : List Value → List Value → Result Bool
  | x :: xs, y :: ys => do
    if ← equal x y then equalAll xs ys else .ok false
  | [], [] => .ok true
  | _, _ => .ok false

def entriesIn : List (Value × Value) → List (Value × Value) → Result Bool
  | [], _ => .ok true
  | (k, v) :: rest, ys =>
    match entryFor? k ys with
    | Option.none => .ok false
    | some w => do
      if ← equal v w then entriesIn rest ys else .ok false
end

/-- Is `v` a member of a set or of a view that acts as one? -/
def hasMember (c v : Value) : Result Bool :=
  match c, v with
  | view .items entries, tuple [k, w] => do
    checkKey k
    match entryFor? k entries with
    | some found => equal found w
    | Option.none => return false
  | c, v => hasKey c v

/-- Does one set have the other's members, and does it have more of them if the order is strict? -/
def includes (op : Order) (a b : Value) (xs ys : List Value) : Result Bool :=
  if !op.holds (compare xs.length ys.length) then .ok false
  else
    match op with
    | .lt | .le => xs.allM (hasMember b)
    | .gt | .ge => ys.allM (hasMember a)

mutual
/-- Does `a op b` hold? -/
def ordered (op : Order) : Value → Value → Result Bool
  | absent a, _ => .error a.failure
  | list xs, list ys | tuple xs, tuple ys => orderedAll op xs ys
  | _, absent b => .error b.failure
  | a, b =>
    match a.members?, b.members?, a.text?, b.text?, compareNumbers a b with
    | some xs, some ys, _, _, _ => includes op a b xs ys
    | _, _, some s, some t, _ => .ok (op.holds (compare s t))
    | _, _, _, _, some (some o) => .ok (op.holds o)
    | _, _, _, _, some Option.none => .ok false
    | _, _, _, _, _ =>
      let symbol := op.symbol
      typeError s!"'{symbol}' not supported between instances of '{a.typeName}' and '{b.typeName}'"

/-- The first items that differ decide, else the lengths. -/
def orderedAll (op : Order) : List Value → List Value → Result Bool
  | x :: xs, y :: ys => do
    if ← equal x y then orderedAll op xs ys else ordered op x y
  | xs, ys => .ok (op.holds (compare xs.length ys.length))
end

/-- Is one of the items equal to `v`? -/
def anyEqual (v : Value) : List Value → Result Bool
  | [] => .ok false
  | x :: xs => do
    if ← equal x v then .ok true else anyEqual v xs

/-- Does `c` contain `v`? -/
def contains (v c : Value) : Result Bool :=
  match c with
  | text s | markup s =>
    match v.text? with
    | some t => .ok (Text.occursIn t.toList s.toList)
    | Option.none => typeError s!"'in <string>' requires string as left operand, not {v.typeName}"
  | dict entries => do
    v.checkKey
    return (entryFor? v entries).isSome
  | set _ | view .keys _ | view .items _ =>
    match c, v with
    | set _, set _ => .ok false
    | c, v => hasMember c v
  | method .. | formatter .. | slice .. | template | none | bool _ | int _ | float _ | complex .. =>
    typeError s!"argument of type '{c.typeName}' is not iterable"
  | c => do
    match ← c.items with
    | (xs, ending) =>
      if ← anyEqual v xs then .ok true
      else
        match ending with
        | some f => .error f
        | Option.none => .ok false

end Value

end Stencil.Expr
