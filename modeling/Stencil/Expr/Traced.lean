import Stencil.Expr.Show

/-!
# Values and where they come from

A traced value is a value together with its origin. Two traced values are the same if nothing could tell them
apart: they look alike, and one name or one constant stands behind both, or there is only one value that looks
like them.
-/
namespace Stencil.Expr

structure Traced where
  value : Value
  origin : Origin
  deriving Inhabited

/-- Values that there is only one of. -/
def Value.same : Value → Value → Bool
  | .none, .none | .template, .template => true
  | .bool a, .bool b => a == b
  | .int m, .int n => m == n && -5 ≤ m && m ≤ 256
  | .tuple [], .tuple [] => true
  | _, _ => false

mutual
/-- Do two constants have the same literal? Equal ones of a kind are one constant; lists are made anew each
time. -/
def Value.sameConstant : Value → Value → Bool
  | .text s, .text t => s == t
  | .int m, .int n => m == n
  | .float x, .float y => x.toBits == y.toBits
  | .complex a b, .complex c d => a.toBits == c.toBits && b.toBits == d.toBits
  | .tuple xs, .tuple ys => sameConstants xs ys
  | a, b => a.same b

def sameConstants : List Value → List Value → Bool
  | [], [] => true
  | x :: xs, y :: ys => x.sameConstant y && sameConstants xs ys
  | _, _ => false
end

/-- Is there only one such text? -/
def isSingle (s : String) : Bool := s.length ≤ 1 && s.toList.all fun c => c.toNat < 256

/-- Single characters whose constants are kept apart from the texts that are cut out of others. -/
def apartConstants : List String := "BCLST_abcdefhijklmnopqrstvwxy".toList.map Char.toString

/-- Are two equal texts the same? -/
def sameText (s : String) : Origin → Origin → Bool
  | .bound a, .bound b => a == b || isSingle s
  | .constant, .constant => true
  | .made, _ | _, .made => s == ""
  | .constant, _ | _, .constant => isSingle s && !apartConstants.contains s
  | _, _ => isSingle s

namespace Traced

def same (a b : Traced) : Bool :=
  match a.value, b.value, a.origin, b.origin with
  | .text s, .text t, o, p => s == t && sameText s o p
  | v, w, .constant, .constant => v.sameConstant w
  | v, w, _, _ => v.same w

/-- Values side by side with their origins. -/
def pair : List Value → List Origin → List Traced
  | [], _ => []
  | v :: vs, [] => ⟨v, .common⟩ :: pair vs []
  | v :: vs, o :: os => ⟨v, o⟩ :: pair vs os

/-- Entries side by side with their origins. -/
def pairEntries : List (Value × Value) → List (Origin × Origin) → List (Traced × Traced)
  | [], _ => []
  | (k, v) :: rest, [] => (⟨k, .common⟩, ⟨v, .common⟩) :: pairEntries rest []
  | (k, v) :: rest, (o, p) :: os => (⟨k, o⟩, ⟨v, p⟩) :: pairEntries rest os

/-- The entries of a mapping or of a view. -/
def entries (t : Traced) : List (Traced × Traced) :=
  match t.value with
  | .dict entries | .view _ entries => pairEntries entries (t.origin.entriesOf entries.length)
  | _ => []

def ofEntry (entry : Traced × Traced) : Traced :=
  ⟨.tuple [entry.1.value, entry.2.value], .ofParts [entry.1.origin, entry.2.origin]⟩

/-- The items that a loop over the value meets. -/
def items (t : Traced) : List Traced :=
  match t.value with
  | .dict _ | .view .keys _ => t.entries.map (·.1)
  | .view .values _ => t.entries.map (·.2)
  | .view .items _ => t.entries.map ofEntry
  | .text s | .markup s => s.toList.map fun c => ⟨.text c.toString, .common⟩
  | .list xs | .tuple xs | .set xs | .stream _ xs _ => pair xs (t.origin.partsOf xs.length)
  | _ => []

/-- Do two values look alike? -/
def looksLike (a b : Value) : Bool :=
  match a, b with
  | .text s, .text t | .markup s, .markup t => s == t
  | a, b =>
    match a.literal, b.literal with
    | .ok s, .ok t => a.typeName == b.typeName && s == t
    | _, _ => false

/-- The origin of a value that may be one of some that were there already, else `otherwise`. -/
def originAmong (v : Value) (otherwise : Origin) (candidates : List Traced) : Origin :=
  ((candidates.find? fun t => looksLike t.value v).map (·.origin)).getD otherwise

/-- The origins of values that were taken out of others, in order. -/
def originsAmong (candidates : List Traced) : List Value → List Origin
  | [] => []
  | v :: vs =>
    let looks := fun (t : Traced) => looksLike t.value v
    match candidates.find? looks with
    | some t => t.origin :: originsAmong (candidates.eraseP looks) vs
    | none => .common :: originsAmong candidates vs

/-- The origin of a collection of items that were taken out of others. -/
def originOfItems (v : Value) (candidates : List Traced) : Origin :=
  if candidates.all fun t => t.origin.isPlain then .common
  else
    match v with
    | .list xs | .tuple xs | .set xs | .stream _ xs _ => .ofParts (originsAmong candidates xs)
    | _ => .common

end Traced

end Stencil.Expr
