import Stencil.Expr.Compare

/-!
# Operations on sets

What sets and the views that act as sets have in common: union, intersection and difference with the items
of any value. Every item has to be fit for a key.
-/
namespace Stencil.Expr

namespace Value

/-- Each item once, at the place where it comes first. -/
def distinct (xs : List Value) : List Value :=
  xs.foldl (fun seen x => if seen.any (sameKey · x) then seen else seen ++ [x]) []

/-- Integers from the least to the greatest. -/
def ascending (xs : List Value) : List Value :=
  if xs.all fun x => x.int?.isSome then xs.mergeSort fun x y => x.int?.getD 0 ≤ y.int?.getD 0 else xs

/-- The set of some items. Integers stand in their order, other items as they come. -/
def setOf (xs : List Value) : Value := set (ascending (distinct xs))

/-- The items of a value, all of which can be keys. -/
def keyItems (v : Value) : Result (List Value) := do
  let (xs, ending) ← v.items
  xs.forM checkKey
  match ending with
  | some f => .error f
  | Option.none => return xs

/-- The items without those of another value. -/
def without (xs ys : List Value) : List Value := xs.filter fun x => !ys.any (sameKey · x)

/-- The set of the items of `a` that are no items of `b`. -/
def difference (a b : Value) : Result Value := do
  let xs ← a.keyItems
  return setOf (without xs (← b.keyItems))

/-- The items that another value has, too. -/
def within (xs ys : List Value) : List Value := xs.filter fun x => ys.any (sameKey · x)

def isSet : Value → Bool
  | set _ => true
  | _ => false

/-- The set of the items that `a` and `b` share: those of `b`, or of `a` if `b` is a larger set. -/
def intersection (a b : Value) : Result Value := do
  let xs ← a.keyItems
  let ys ← b.keyItems
  return setOf (if b.isSet && ys.length > xs.length then within xs ys else within ys xs)

def union (a b : Value) : Result Value := do
  let xs ← a.keyItems
  return setOf (xs ++ (← b.keyItems))

/-- The set of the items of one of the two values alone. -/
def symmetricDifference (a b : Value) : Result Value := do
  let xs ← a.keyItems
  let ys ← b.keyItems
  return setOf (without xs ys ++ without ys xs)

/-- Have the two no item in common? Items are looked up in the larger one of two that act as sets, where a
set takes only another set for one. -/
def isDisjoint (a b : Value) : Result Bool := do
  let (xs, ending) ← b.items
  let alike := b.isSet || (!a.isSet && b.members?.isSome)
  let swaps := alike && xs.length > (a.members?.getD []).length
  let common ← if swaps then (a.members?.getD []).anyM (hasMember b) else xs.anyM (hasMember a)
  match common, ending with
  | false, some f => .error f
  | _, _ => return !common

/-- Does a set difference apply: is one of the two a view that acts as a set, or are both sets? -/
def haveDifference : Value → Value → Bool
  | view .keys _, _ | view .items _, _ | _, view .keys _ | _, view .items _ => true
  | set _, set _ => true
  | _, _ => false

end Value

end Stencil.Expr
