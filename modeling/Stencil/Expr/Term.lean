import Stencil.Expr.Compare
import Stencil.Expr.Number

/-!
# Terms

The structure of an expression, after reading and before evaluation. A term knows which names, filters and
tests it mentions; no other name can matter for its value.
-/
namespace Stencil.Expr

/-- How two neighbours in a chain of comparisons compare. -/
inductive Comparison where
  | eq
  | ne
  | ordered (op : Order)
  | isIn
  | notIn
  deriving DecidableEq, Repr

inductive Sign where
  | minus
  | plus
  deriving DecidableEq, Repr

inductive Term where
  | constant (v : Value)
  | name (s : String)
  | list (items : List Term)
  | tuple (items : List Term)
  | dict (entries : List (Term × Term))
  | sign (s : Sign) (operand : Term)
  | negation (operand : Term)
  | arithmetic (op : Operation) (left right : Term)
  | conjunction (left right : Term)
  | disjunction (left right : Term)
  | joined (parts : List Term)
  | compared (first : Term) (rest : List (Comparison × Term))
  /-- Without an else branch the line of the term is kept for the message. -/
  | conditional (condition chosen : Term) (otherwise : Option Term) (line : Nat)
  | attribute (owner : Term) (name : String)
  | item (owner key : Term)
  | slice (start stop step : Option Term)
  | call (callee : Term) (positional : List Term) (named : List (String × Term))
      (rest restNamed : Option Term)
  | filter (operand : Term) (name : String) (positional : List Term) (named : List (String × Term))
      (rest restNamed : Option Term)
  | test (operand : Term) (name : String) (positional : List Term) (named : List (String × Term))
      (rest restNamed : Option Term)
  deriving Inhabited

/-- The arguments of a call, a filter or a test, as they are written. `rest` and `restNamed` are terms
whose items are passed on. -/
structure Passed where
  positional : List Term
  named : List (String × Term)
  rest : Option Term
  restNamed : Option Term
  deriving Inhabited

def Passed.nothing : Passed := ⟨[], [], none, none⟩

def Term.callOf (callee : Term) (p : Passed) : Term :=
  .call callee p.positional p.named p.rest p.restNamed

def Term.filterOf (operand : Term) (name : String) (p : Passed) : Term :=
  .filter operand name p.positional p.named p.rest p.restNamed

def Term.testOf (operand : Term) (name : String) (p : Passed) : Term :=
  .test operand name p.positional p.named p.rest p.restNamed

mutual
/-- What `f` finds in a term and in its parts: a term before its parts, and a condition before what hangs
on it. -/
def Term.gather {α : Type} (f : Term → List α) : Term → List α
  | .constant v => f (.constant v)
  | .name s => f (.name s)
  | .list items => f (.list items) ++ gatherAll f items
  | .tuple items => f (.tuple items) ++ gatherAll f items
  | .joined items => f (.joined items) ++ gatherAll f items
  | .dict entries => f (.dict entries) ++ gatherEntries f entries
  | .sign s t => f (.sign s t) ++ t.gather f
  | .negation t => f (.negation t) ++ t.gather f
  | .attribute t name => f (.attribute t name) ++ t.gather f
  | .arithmetic op a b => f (.arithmetic op a b) ++ a.gather f ++ b.gather f
  | .conjunction a b => f (.conjunction a b) ++ a.gather f ++ b.gather f
  | .disjunction a b => f (.disjunction a b) ++ a.gather f ++ b.gather f
  | .item a b => f (.item a b) ++ a.gather f ++ b.gather f
  | .compared t rest => f (.compared t rest) ++ t.gather f ++ gatherComparisons f rest
  | .conditional c a b line =>
    f (.conditional c a b line) ++ c.gather f ++ a.gather f ++ gatherOption f b
  | .slice a b c => f (.slice a b c) ++ gatherOption f a ++ gatherOption f b ++ gatherOption f c
  | .call t xs named r s =>
    f (.call t xs named r s) ++ t.gather f ++ gatherAll f xs ++ gatherNamed f named ++ gatherOption f r
      ++ gatherOption f s
  | .filter t name xs named r s =>
    f (.filter t name xs named r s) ++ t.gather f ++ gatherAll f xs ++ gatherNamed f named
      ++ gatherOption f r ++ gatherOption f s
  | .test t name xs named r s =>
    f (.test t name xs named r s) ++ t.gather f ++ gatherAll f xs ++ gatherNamed f named
      ++ gatherOption f r ++ gatherOption f s

def gatherAll {α : Type} (f : Term → List α) : List Term → List α
  | [] => []
  | t :: ts => t.gather f ++ gatherAll f ts

def gatherEntries {α : Type} (f : Term → List α) : List (Term × Term) → List α
  | [] => []
  | (k, v) :: rest => k.gather f ++ v.gather f ++ gatherEntries f rest

def gatherComparisons {α : Type} (f : Term → List α) : List (Comparison × Term) → List α
  | [] => []
  | (_, t) :: rest => t.gather f ++ gatherComparisons f rest

def gatherNamed {α : Type} (f : Term → List α) : List (String × Term) → List α
  | [] => []
  | (_, t) :: rest => t.gather f ++ gatherNamed f rest

def gatherOption {α : Type} (f : Term → List α) : Option Term → List α
  | none => []
  | some t => t.gather f
end

/-! ### What a term mentions -/

def Term.ownName : Term → List String
  | .name s => [s]
  | _ => []

def Term.ownFilter : Term → List String
  | .filter _ s _ _ _ _ => [s]
  | _ => []

def Term.ownTest : Term → List String
  | .test _ s _ _ _ _ => [s]
  | _ => []

/-- Each one once, at its first place. -/
def firstOnes (names : List String) : List String :=
  names.foldl (fun seen name => if seen.contains name then seen else seen ++ [name]) []

/-- The names that a term mentions, in the order of their first places. -/
def Term.names (t : Term) : List String := firstOnes (t.gather ownName)

/-- The filters that a term applies, in alphabetical order. -/
def Term.filters (t : Term) : List String :=
  (firstOnes (t.gather ownFilter)).mergeSort fun a b => decide (a ≤ b)

/-- The tests that a term asks, in alphabetical order. -/
def Term.tests (t : Term) : List String :=
  (firstOnes (t.gather ownTest)).mergeSort fun a b => decide (a ≤ b)

end Stencil.Expr
