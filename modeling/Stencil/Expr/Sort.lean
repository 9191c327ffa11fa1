import Stencil.Expr.Compare
import Stencil.Sorting

/-!
# Sorting values

Items sorted by keys that may turn out not to be comparable.
-/
namespace Stencil.Expr

/-- An item with the key it is sorted by. -/
structure Keyed where
  key : Value
  item : Value
  deriving Inhabited

namespace Keyed

def less (a b : Keyed) : Result Bool := Value.ordered .lt a.key b.key

def sort (xs : List Keyed) : Result (List Keyed) := Sorting.sort less xs

/-- From the greatest to the least; equal keys keep their order. -/
def sortDown (xs : List Keyed) : Result (List Keyed) := do
  return (← sort xs.reverse).reverse

end Keyed

end Stencil.Expr
