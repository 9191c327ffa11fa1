import Stencil.Expr.Apply
import Stencil.Expr.Grammar

/-!
# Working out constants

Before an expression is evaluated, the parts of it that mention no name are worked out once. A part that
fails stays as it is and fails when it is evaluated, with three exceptions that fail at once: taking a
value that cannot be used for a condition, joining such a value to text, and a key that cannot be one.
What is worked out replaces a part only if it can be written down: streams, methods and absent values
cannot, but they can be used on the way.
-/
namespace Stencil.Expr

/-- Why a term has no constant value: it has none, or working it out fails at once. -/
inductive Stop where
  | notConstant
  | failed (f : Failure)

abbrev Folding (α : Type) := Except Stop α

namespace Folding

/-- A failure here leaves the term as it is. -/
def attempt {α : Type} (r : Result α) : Folding α := r.mapError fun _ => .notConstant

/-- A failure here is one of the whole expression. -/
def must {α : Type} (r : Result α) : Folding α := r.mapError .failed

end Folding

open Folding

/-- Filters that may depend on more than their arguments. -/
def isOpen (name : String) : Bool :=
  ["map", "select", "reject", "selectattr", "rejectattr", "random"].contains name

mutual
/-- The constant value of a term. -/
def Term.fold : Term → Folding Value
  | .constant v => .ok v
  | .name _ => .error .notConstant
  | .list items => do return .list (← foldAll items)
  | .tuple items => do return .tuple (← foldAll items)
  | .dict entries => do must (Value.dictOf (← foldEntries entries))
  | .sign s t => do attempt (s.apply (← t.fold))
  | .negation t => do return .bool !(← attempt (← t.fold).truth)
  | .arithmetic op a b => do
    let x ← a.fold
    attempt (Value.operate op x (← b.fold))
  | .conjunction a b => do
    let x ← a.fold
    if ← must x.truth then b.fold else return x
  | .disjunction a b => do
    let x ← a.fold
    if ← must x.truth then return x else b.fold
  | .joined parts => do return .text (String.join (← foldTexts parts))
  | .compared t rest => do return .bool (← foldComparisons (← t.fold) rest)
  | .conditional c a b _ => do
    if ← must (← c.fold).truth then a.fold
    else
      match b with
      | none => .error .notConstant
      | some t => t.fold
  | .attribute t name => do attempt ((← t.fold).lookUpAttribute name)
  | .item t key => do
    let x ← t.fold
    attempt (x.lookUpItem (← key.fold))
  | .slice a b c => do
    let start ← foldOption a
    let stop ← foldOption b
    return .slice start stop (← foldOption c)
  | .call .. => .error .notConstant
  | .filter t name xs named rest restNamed => do
    if isOpen name || !knowsFilter name then .error .notConstant
    let positional ← foldAll xs
    let named ← foldNamed named
    let more ← foldOption rest
    let moreNamed ← foldOption restNamed
    let x ← t.fold
    attempt do
      let more ← if rest.isSome then more.toList else .ok []
      let named ← constantArguments named (restNamed.map fun _ => moreNamed)
      applyFilter name x ⟨positional ++ more, named⟩
  | .test t name xs named rest restNamed => do
    if !knowsTest name then .error .notConstant
    let positional ← foldAll xs
    let named ← foldNamed named
    let more ← foldOption rest
    let moreNamed ← foldOption restNamed
    let x ← t.fold
    attempt do
      let more ← if rest.isSome then more.toList else .ok []
      let named ← constantArguments named (restNamed.map fun _ => moreNamed)
      applyTest name x ⟨positional ++ more, named⟩

def foldAll : List Term → Folding (List Value)
  | [] => .ok []
  | t :: ts => do
    let v ← t.fold
    return v :: (← foldAll ts)

def foldTexts : List Term → Folding (List String)
  | [] => .ok []
  | t :: ts => do
    let s ← must (← t.fold).toText
    return s :: (← foldTexts ts)

def foldEntries : List (Term × Term) → Folding (List (Value × Value))
  | [] => .ok []
  | (k, t) :: rest => do
    let key ← k.fold
    let v ← t.fold
    must key.checkKey
    return (key, v) :: (← foldEntries rest)

def foldNamed : List (String × Term) → Folding (List (String × Value))
  | [] => .ok []
  | (key, t) :: rest => do
    let v ← t.fold
    return (key, v) :: (← foldNamed rest)

def foldOption : Option Term → Folding Value
  | none => .ok .none
  | some t => t.fold

def foldComparisons : Value → List (Comparison × Term) → Folding Bool
  | _, [] => .ok true
  | v, (c, t) :: rest => do
    let w ← t.fold
    if ← attempt (c.holds v w) then foldComparisons w rest else return false
end

mutual
/-- Can a value be written down as a literal? -/
def Value.isLiteral : Value → Bool
  | .none | .bool _ | .int _ | .float _ | .complex .. | .text _ | .markup _ => true
  | .list xs | .tuple xs | .set xs => areLiterals xs
  | .dict entries => areLiteralEntries entries
  | .absent _ | .method .. | .formatter .. | .stream .. | .view .. | .slice .. | .template => false

def areLiterals : List Value → Bool
  | [] => true
  | x :: xs => x.isLiteral && areLiterals xs

def areLiteralEntries : List (Value × Value) → Bool
  | [] => true
  | (k, v) :: rest => k.isLiteral && v.isLiteral && areLiteralEntries rest
end

/-- The constant value in place of a term that has one. -/
def Term.settle (t : Term) : Result Term :=
  match t.fold with
  | .ok v => .ok (if v.isLiteral then .constant v else t)
  | .error .notConstant => .ok t
  | .error (.failed f) => .error f

mutual
/-- Works out the constant parts of a term, the inner ones first. -/
def Term.simplify : Term → Result Term
  | .constant v => .ok (.constant v)
  | .name s => .ok (.name s)
  | .list items => do (Term.list (← simplifyAll items)).settle
  | .tuple items => do (Term.tuple (← simplifyAll items)).settle
  | .dict entries => do (Term.dict (← simplifyEntries entries)).settle
  | .sign s t => do (Term.sign s (← t.simplify)).settle
  | .negation t => do (Term.negation (← t.simplify)).settle
  | .arithmetic op a b => do
    let a ← a.simplify
    (Term.arithmetic op a (← b.simplify)).settle
  | .conjunction a b => do
    let a ← a.simplify
    (Term.conjunction a (← b.simplify)).settle
  | .disjunction a b => do
    let a ← a.simplify
    (Term.disjunction a (← b.simplify)).settle
  | .joined parts => do (Term.joined (← simplifyAll parts)).settle
  | .compared t rest => do
    let t ← t.simplify
    (Term.compared t (← simplifyComparisons rest)).settle
  | .conditional c a b line => do
    let c ← c.simplify
    let a ← a.simplify
    (Term.conditional c a (← simplifyOption b) line).settle
  | .attribute t name => do (Term.attribute (← t.simplify) name).settle
  | .item t key => do
    let t ← t.simplify
    (Term.item t (← key.simplify)).settle
  | .slice a b c => do
    let a ← simplifyOption a
    let b ← simplifyOption b
    return .slice a b (← simplifyOption c)
  | .call t xs named rest restNamed => do
    let t ← t.simplify
    let xs ← simplifyAll xs
    let named ← simplifyNamed named
    let rest ← simplifyOption rest
    return .call t xs named rest (← simplifyOption restNamed)
  | .filter t name xs named rest restNamed => do
    let t ← t.simplify
    let xs ← simplifyAll xs
    let named ← simplifyNamed named
    let rest ← simplifyOption rest
    (Term.filter t name xs named rest (← simplifyOption restNamed)).settle
  | .test t name xs named rest restNamed => do
    let t ← t.simplify
    let xs ← simplifyAll xs
    let named ← simplifyNamed named
    let rest ← simplifyOption rest
    (Term.test t name xs named rest (← simplifyOption restNamed)).settle

def simplifyAll : List Term → Result (List Term)
  | [] => .ok []
  | t :: ts => do
    let t ← t.simplify
    return t :: (← simplifyAll ts)

def simplifyEntries : List (Term × Term) → Result (List (Term × Term))
  | [] => .ok []
  | (k, t) :: rest => do
    let k ← k.simplify
    let t ← t.simplify
    return (k, t) :: (← simplifyEntries rest)

def simplifyComparisons : List (Comparison × Term) → Result (List (Comparison × Term))
  | [] => .ok []
  | (c, t) :: rest => do
    let t ← t.simplify
    return (c, t) :: (← simplifyComparisons rest)

def simplifyNamed : List (String × Term) → Result (List (String × Term))
  | [] => .ok []
  | (key, t) :: rest => do
    let t ← t.simplify
    return (key, t) :: (← simplifyNamed rest)

def simplifyOption : Option Term → Result (Option Term)
  | none => .ok none
  | some t => do return some (← t.simplify)
end

/-! ### Checking names of filters and tests -/

def checkFilter (soft : Bool) (name : String) : Except Refusal Unit :=
  if soft || knowsFilter name then .ok ()
  else .error (.badSyntax s!"No filter named {Text.quote name}.")

def checkTest (soft : Bool) (name : String) : Except Refusal Unit :=
  if soft || knowsTest name then .ok ()
  else .error (.badSyntax s!"No test named {Text.quote name}.")

mutual
/-- Refuses unknown filters and tests, the outer ones first, except in conditionals, where they fail only
if they are reached. Refuses constants that have no text. -/
def Term.check (soft : Bool) : Term → Except Refusal Unit
  | .constant v => (v.literal.mapError .failed).map fun _ => ()
  | .name _ => .ok ()
  | .list items | .tuple items | .joined items => checkAll soft items
  | .dict entries => checkEntries soft entries
  | .sign _ t | .negation t | .attribute t _ => t.check soft
  | .arithmetic _ a b | .conjunction a b | .disjunction a b | .item a b => do
    a.check soft
    b.check soft
  | .compared t rest => do
    t.check soft
    checkComparisons soft rest
  | .conditional c a b _ => do
    a.check true
    c.check true
    checkOption true b
  | .slice a b c => do
    checkOption soft a
    checkOption soft b
    checkOption soft c
  | .call t xs named rest restNamed => do
    t.check soft
    checkAll soft xs
    checkNamed soft named
    checkOption soft rest
    checkOption soft restNamed
  | .filter t name xs named rest restNamed => do
    checkFilter soft name
    t.check soft
    checkAll soft xs
    checkNamed soft named
    checkOption soft rest
    checkOption soft restNamed
  | .test t name xs named rest restNamed => do
    checkTest soft name
    t.check soft
    checkAll soft xs
    checkNamed soft named
    checkOption soft rest
    checkOption soft restNamed

def checkAll (soft : Bool) : List Term → Except Refusal Unit
  | [] => .ok ()
  | t :: ts => do
    t.check soft
    checkAll soft ts

def checkEntries (soft : Bool) : List (Term × Term) → Except Refusal Unit
  | [] => .ok ()
  | (k, t) :: rest => do
    k.check soft
    t.check soft
    checkEntries soft rest

def checkComparisons (soft : Bool) : List (Comparison × Term) → Except Refusal Unit
  | [] => .ok ()
  | (_, t) :: rest => do
    t.check soft
    checkComparisons soft rest

def checkNamed (soft : Bool) : List (String × Term) → Except Refusal Unit
  | [] => .ok ()
  | (_, t) :: rest => do
    t.check soft
    checkNamed soft rest

def checkOption (soft : Bool) : Option Term → Except Refusal Unit
  | none => .ok ()
  | some t => t.check soft
end

mutual
/-- Works out constants and checks names. Lists, tuples and dictionaries that are not part of anything else
are prepared item by item. -/
def Term.prepare : Term → Except Refusal Term
  | .list items => do return .list (← prepareAll items)
  | .tuple items => do return .tuple (← prepareAll items)
  | .dict entries => do return .dict (← prepareEntries entries)
  | t => do
    let t ← t.simplify.mapError .failed
    t.check false
    return t

def prepareAll : List Term → Except Refusal (List Term)
  | [] => .ok []
  | t :: ts => do
    let t ← t.prepare
    return t :: (← prepareAll ts)

def prepareEntries : List (Term × Term) → Except Refusal (List (Term × Term))
  | [] => .ok []
  | (k, t) :: rest => do
    let k ← k.prepare
    let t ← t.prepare
    return (k, t) :: (← prepareEntries rest)
end

end Stencil.Expr
