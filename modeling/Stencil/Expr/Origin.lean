/-!
# Where values come from

Values have no identity. An expression can ask whether two values are one and the same, though, and that hangs
on where they come from: two equal texts are the same if both are what one name is bound to, but not if one
of them was put together anew.
-/
namespace Stencil.Expr

/-- Where a value comes from. -/
inductive Origin where
  /-- Made anew, and kept apart from all others unless it is empty. -/
  | made
  /-- Of no matter, except that there is only one text of each single character. -/
  | common
  | bound (name : String)
  | constant
  /-- Made of parts. -/
  | parts (origins : List Origin)
  /-- Made of entries. -/
  | entries (origins : List (Origin × Origin))
  deriving Inhabited, Repr

namespace Origin

/-- Does nothing about the parts of the value matter? -/
def isPlain : Origin → Bool
  | .made | .common => true
  | _ => false

/-- A value made of parts. -/
def ofParts (origins : List Origin) : Origin :=
  if origins.all isPlain then .common else .parts origins

/-- A mapping made of entries. -/
def ofEntries (origins : List (Origin × Origin)) : Origin :=
  if origins.all fun o => o.1.isPlain && o.2.isPlain then .common else .entries origins

/-- The origins of `n` parts. -/
def partsOf (o : Origin) (n : Nat) : List Origin :=
  match o with
  | .parts origins => origins
  | .constant => List.replicate n .constant
  | _ => List.replicate n .common

/-- The origins of `n` entries. -/
def entriesOf (o : Origin) (n : Nat) : List (Origin × Origin) :=
  match o with
  | .entries origins => origins
  | .constant => List.replicate n (.constant, .constant)
  | _ => List.replicate n (.common, .common)

end Origin

end Stencil.Expr
