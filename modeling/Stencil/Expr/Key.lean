import Stencil.Expr.Access
import Stencil.Expr.Number
import Stencil.Text.Case

/-!
# Keys of items

Filters that sort, group or compare items may look at a part of each item instead: an attribute path with
dots between its steps, where a step in digits is a place. Unless case counts, text is compared in lower
case.
-/
namespace Stencil.Expr

/-- The steps to a part of an item. -/
abbrev Steps := List Value

namespace Steps

/-- A step of a path, which is a place if it is written in digits. -/
def step (part : Value) : Result Value :=
  let s := part.text?.getD ""
  if s.isEmpty || !s.toList.all Text.isDigitLike then .ok part
  else do
    let n ← readDecimal part s
    return .int n

/-- The pieces of a text or of markup between separators. -/
def split (sep : Char) (v : Value) : List Value :=
  let pieces (s : String) := (Text.splitAt [sep] s.length s.toList).map String.ofList
  match v with
  | .markup s => (pieces s).map .markup
  | v => (pieces (v.text?.getD "")).map .text

def ofValue (v : Value) : Result Steps :=
  match v with
  | .none => .ok []
  | .text _ | .markup _ => (split '.' v).mapM step
  | v => .ok [v]

/-- The part of an item; a part that is not there becomes the default if there is one. -/
def follow (default : Option Value) : Steps → Value → Result Value
  | [], v => .ok v
  | s :: rest, v => do
    match ← v.lookUpItem s, default with
    | .absent _, some d => follow default rest d
    | w, _ => follow default rest w

end Steps

/-- Text in lower case, and any other value as it is. -/
def withoutCase : Value → Value
  | .text s => .text (Text.toLower s)
  | .markup s => .markup (Text.toLower s)
  | v => v

/-- The key of an item: a part of it, without case unless case counts. -/
structure KeyRule where
  steps : Steps
  keepCase : Bool

def KeyRule.key (r : KeyRule) (item : Value) : Result Value := do
  let part ← r.steps.follow none item
  return if r.keepCase then part else withoutCase part

/-- The rule for an attribute path. -/
def KeyRule.of (path caseCounts : Value) : Result KeyRule := do
  let keepCase ← caseCounts.truth
  return ⟨← Steps.ofValue path, keepCase⟩

/-- The rules for several attribute paths with commas between them. -/
def KeyRule.list (path caseCounts : Value) : Result (List KeyRule) :=
  if path.isText then (Steps.split ',' path).mapM fun p => KeyRule.of p caseCounts
  else do return [← KeyRule.of path caseCounts]

end Stencil.Expr
