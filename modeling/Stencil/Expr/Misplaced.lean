import Stencil.Expr.Apply

/-!
# Misplaced slices

A slice stands alone between brackets. In a tuple between brackets it has no form, and the form of the whole
expression cannot be read. What is said of that hangs on what surrounds the first misplaced slice: keys of
entries and conditions have a message of their own if they can be read up to somewhere before it. Of keys the
inner one speaks, then of conditions.
-/
namespace Stencil.Expr

/-- What reading a form comes to at a misplaced slice. -/
structure Misplaced where
  /-- What a key around it says. -/
  ofKey : Option String
  /-- What a condition around it says. -/
  ofCondition : Option String
  /-- Does something stand before the place that can be read on its own? -/
  begun : Bool
  deriving DecidableEq, Repr

namespace Misplaced

/-- At the slice itself. -/
def here : Misplaced := ⟨none, none, true⟩

/-- In something that begins with a name. -/
def named (m : Misplaced) : Misplaced := { m with begun := true }

/-- In something that begins with a bracket. -/
def enclosed (m : Misplaced) : Misplaced := { m with begun := false }

/-- In the key of an entry that is not the first one. -/
def laterKey (m : Misplaced) : Misplaced :=
  if m.begun then { m with ofKey := m.ofKey <|> some "':' expected after dictionary key" } else m

/-- In the condition of a conditional. -/
def condition (m : Misplaced) : Misplaced :=
  if m.begun then
    { m with ofCondition := m.ofCondition <|> some "expected 'else' after 'if' expression" }
  else m

def message (m : Misplaced) : String := (m.ofKey <|> m.ofCondition).getD "invalid syntax"

end Misplaced

mutual
/-- The first misplaced slice in the form of a term. -/
def Term.misplaced? : Term → Option Misplaced
  | .constant _ | .name _ => none
  | .list items | .tuple items => (misplacedIn? items).map .enclosed
  | .joined items => (misplacedIn? items).map .named
  | .dict entries => (misplacedPair? true entries).map .enclosed
  | .sign _ t | .negation t => t.misplaced?.map .enclosed
  | .attribute t _ => t.misplaced?.map .named
  | .arithmetic _ a b | .conjunction a b | .disjunction a b =>
    (a.misplaced? <|> b.misplaced?).map .enclosed
  | .compared t rest => (t.misplaced? <|> misplacedCompared? rest).map .enclosed
  | .conditional c a b _ =>
    (a.misplaced? <|> c.misplaced?.map Misplaced.condition <|> misplacedOption? b).map .enclosed
  | .item t (.slice a b c) =>
    t.misplaced? <|> (misplacedOption? a <|> misplacedOption? b <|> misplacedOption? c).map .named
  | .item t key => (t.misplaced? <|> key.misplaced?).map .named
  | .slice a _ _ => misplacedOption? a <|> some .here
  | .call t xs named rest restNamed | .filter t _ xs named rest restNamed
  | .test t _ xs named rest restNamed =>
    let byName := misplacedNamed? named
    let byPlace := misplacedOption? rest
    let given := if isReserved named then byPlace <|> byName else byName <|> byPlace
    (t.misplaced? <|> misplacedIn? xs <|> given <|> misplacedOption? restNamed).map .named

def misplacedIn? : List Term → Option Misplaced
  | [] => none
  | t :: ts => t.misplaced? <|> misplacedIn? ts

def misplacedPair? (first : Bool) : List (Term × Term) → Option Misplaced
  | [] => none
  | (k, v) :: rest =>
    let key := k.misplaced?
    (if first then key else key.map .laterKey) <|> v.misplaced? <|> misplacedPair? false rest

def misplacedCompared? : List (Comparison × Term) → Option Misplaced
  | [] => none
  | (_, t) :: rest => t.misplaced? <|> misplacedCompared? rest

def misplacedNamed? : List (String × Term) → Option Misplaced
  | [] => none
  | (_, t) :: rest => t.misplaced? <|> misplacedNamed? rest

def misplacedOption? : Option Term → Option Misplaced
  | none => none
  | some t => t.misplaced?
end

end Stencil.Expr
