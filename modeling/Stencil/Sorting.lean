/-!
# Sorting by a comparison that may fail

The run that begins the list, rising or strictly falling, is taken as it is; each further item is put in
its place by halving. Items that are equal keep their order. The first comparison that fails is the failure
of the whole.
-/
namespace Stencil.Sorting

variable {α ε : Type} (less : α → α → Except ε Bool)

/-- How many of the items go on falling, or go on rising, after `last`. -/
def runLength (falling : Bool) (last : α) : List α → Except ε Nat
  | [] => .ok 0
  | x :: xs => do
    if (← less x last) == falling then return (← runLength falling x xs) + 1 else return 0

/-- The run that begins the list, rising, and the items after it. -/
def firstRun : List α → Except ε (Array α × List α)
  | [] => .ok (#[], [])
  | [x] => .ok (#[x], [])
  | x :: y :: rest => do
    let falling ← less y x
    let n ← runLength less falling y rest
    let run := x :: y :: rest.take n
    return ((if falling then run.reverse else run).toArray, rest.drop n)

/-- The place for `x` between `low` and `high`, after all items that are not greater. -/
def place (x : α) (xs : Array α) (low high : Nat) : Except ε Nat :=
  if h : low < high then do
    let middle := low + (high - low) / 2
    if ← less x (xs.getD middle x) then place x xs low middle else place x xs (middle + 1) high
  else .ok low
  termination_by high - low
  decreasing_by all_goals omega

def insertAll (sorted : Array α) : List α → Except ε (Array α)
  | [] => .ok sorted
  | x :: xs => do
    let i ← place less x sorted 0 sorted.size
    insertAll (sorted.insertIdxIfInBounds i x) xs

def sort (xs : List α) : Except ε (List α) := do
  let (run, rest) ← firstRun less xs
  return (← insertAll less run rest).toList

end Stencil.Sorting
