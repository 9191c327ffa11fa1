import Stencil.Expr.Constant
import Stencil.Expr.Kept

/-!
# Evaluating terms

The value of a term where names are bound, with its origin. Operands are evaluated from left to right; a
conjunction, a disjunction, a conditional and a chain of comparisons leave out what does not matter any more.
Only the names that the term mentions are looked up.
-/
namespace Stencil.Expr

mutual
/-- The name for a number that is not finite, which a literal cannot write. -/
def Value.unwritable? : Value → Option String
  | .float x => if isFinite x then none else if x == x then some "inf" else some "nan"
  | .list xs | .tuple xs | .set xs => unwritableOf? xs
  | .dict entries => unwritableIn? entries
  | _ => none

def unwritableOf? : List Value → Option String
  | [] => none
  | x :: xs => x.unwritable? <|> unwritableOf? xs

def unwritableIn? : List (Value × Value) → Option String
  | [] => none
  | (k, v) :: rest => k.unwritable? <|> v.unwritable? <|> unwritableIn? rest
end

/-- A literal in an expression; a number that is not finite is read as a name, which is bound to
nothing. -/
def literalValue (v : Value) : Result Value :=
  match v.unwritable? with
  | none => .ok v
  | some name => .error (.raised .name s!"name '{name}' is not defined")

/-! ### Names, filters and tests -/

/-- Where a term is evaluated: what names are bound to, the names of what is bound there, and the filters and
tests that the whole expression mentions. -/
structure Scope where
  find? : String → Option Value
  meaning : String → String
  filters : List String
  tests : List String

def Scope.find (scope : Scope) (name : String) : Traced :=
  match scope.find? name with
  | some v => ⟨v, .bound (scope.meaning name)⟩
  | none => ⟨Value.unbound name, .made⟩

/-- How messages name an unknown filter or test, by its place among those that are mentioned. -/
def unknownLabel (before : Nat) (names : List String) (name : String) : String :=
  s!"root.<locals>.t_{before + (names.idxOf name) + 1}()"

def Scope.filterLabel (scope : Scope) (name : String) : String :=
  if knowsFilter name then Expr.filterLabel name else unknownLabel 0 scope.filters name

def Scope.testLabel (scope : Scope) (name : String) : String :=
  if knowsTest name then Expr.testLabel name else unknownLabel scope.filters.length scope.tests name

/-- An unknown filter or test takes no arguments by name, and fails on all others. -/
def refuse {α : Type} (kind name label : String) (args : Arguments) : Result α :=
  match args.named with
  | (key, _) :: _ => typeError s!"{label} got an unexpected keyword argument '{key}'"
  | [] => unknown kind name

/-- The absent value of a conditional that has no else branch. It acts as empty text. -/
def noBranch (line : Nat) : Value :=
  .absent ⟨s!"the inline if-expression on line {line} evaluated to false and no else section was defined.",
    false, false⟩

/-- A sign that stands before a power belongs to the whole power if the base is a literal. -/
def powerOf (base exponent : Value) (baseIsLiteral : Bool) : Result Value :=
  let negative := match base with
    | .int n => decide (n < 0)
    | .float x => isNegative x
    | _ => false
  if baseIsLiteral && negative then do
    (← Value.operate .pow (← base.negate) exponent).negate
  else Value.operate .pow base exponent

def Term.isConstant : Term → Bool
  | .constant _ => true
  | _ => false

/-! ### Arguments -/

/-- The arguments of a call, a filter or a test, each with its origin. -/
structure TracedArguments where
  positional : List Traced
  named : List (String × Traced)
  restNamed : Option Traced

namespace TracedArguments

/-- All arguments, without their names. -/
def all (args : TracedArguments) : List Traced :=
  args.positional ++ args.named.map (·.2)
    ++ (args.restNamed.map fun t => t.entries.map (·.2)).getD []

/-- The arguments as they are passed to what `callee` names. -/
def pass (callee : String) (args : TracedArguments) : Result Arguments := do
  let named ← nameArguments callee (args.named.map fun p => (p.1, p.2.value))
    (args.restNamed.map (·.value))
  return ⟨args.positional.map (·.value), named⟩

end TracedArguments

/-- The items of a value that are passed on as arguments. -/
def spreadTraced : Option Traced → Result (List Traced)
  | none => .ok []
  | some t => do return Traced.pair (← spread t.value) (t.items.map (·.origin))

/-! ### Steps with origins -/

/-- An end of a slice, which may be left out. -/
def valueOf (t : Option Traced) : Value := (t.map (·.value)).getD .none

/-- The origins of the entries of a mapping: of a key that comes again the first one stays, and its last
value. -/
def originsOfKeys (entries : List (Traced × Traced)) (v : Value) : List (Origin × Origin) :=
  match v with
  | .dict found =>
    found.map fun entry =>
      let given := entries.filter fun p => Value.sameKey p.1.value entry.1
      (((given.head?).map (·.1.origin)).getD .common, ((given.getLast?).map (·.2.origin)).getD .common)
  | _ => []

/-- A part of a value. A method keeps the origin of its owner. -/
def partOf (owner : Traced) (v : Value) (origin : Origin) : Traced :=
  match v with
  | .method w name .common => ⟨.method w name owner.origin, .made⟩
  | v => ⟨v, origin⟩

/-- A filter at work. To select what is the same as a value is a matter of origins. -/
def filterTraced (name : String) (operand : Traced) (args : TracedArguments) (passed : Arguments) :
    Result Traced := do
  let v ← applyFilter name operand.value passed
  let found : Traced := ⟨v, .ofFilter args.all.length v name operand args.all⟩
  match name, args.positional, v with
  | "select", [⟨.text "sameas", _⟩, other], .stream type _ none
  | "reject", [⟨.text "sameas", _⟩, other], .stream type _ none =>
    let chosen := operand.items.filter fun item => item.same other == (name == "select")
    return ⟨.stream type (chosen.map (·.value)) none, .ofParts (chosen.map (·.origin))⟩
  | _, _, _ => return found

/-- A test. Whether two values are the same is a matter of origins. -/
def testTraced (name : String) (operand : Traced) (args : TracedArguments) (passed : Arguments) :
    Result Traced := do
  let answer ← applyTest name operand.value passed
  if name = "sameas" then return ⟨.bool (args.all.any operand.same), .common⟩
  else return ⟨answer, .common⟩

mutual
/-- The value of a term, with its origin. -/
def Term.trace (scope : Scope) : Term → Result Traced
  | .constant v => do return ⟨← literalValue v, .constant⟩
  | .name s => .ok (scope.find s)
  | .list items => do
    let items ← traceAll scope items
    return ⟨.list (items.map (·.value)), .ofParts (items.map (·.origin))⟩
  | .tuple items => do
    let items ← traceAll scope items
    return ⟨.tuple (items.map (·.value)), .ofParts (items.map (·.origin))⟩
  | .dict entries => do
    let entries ← traceEntries scope entries
    let v ← Value.dictOf (entries.map fun p => (p.1.value, p.2.value))
    return ⟨v, .ofEntries (originsOfKeys entries v)⟩
  | .sign s t => do
    let x ← t.trace scope
    let v ← s.apply x.value
    return ⟨v, .ofSign v x⟩
  | .negation t => do return ⟨.bool !(← (← t.trace scope).value.truth), .common⟩
  | .arithmetic op a b => do
    let x ← a.trace scope
    let y ← b.trace scope
    let v ← if op = .pow then powerOf x.value y.value a.isConstant
      else Value.operate op x.value y.value
    return ⟨v, .ofOperation v op x y⟩
  | .conjunction a b => do
    let x ← a.trace scope
    if ← x.value.truth then b.trace scope else return x
  | .disjunction a b => do
    let x ← a.trace scope
    if ← x.value.truth then return x else b.trace scope
  | .joined parts => do
    let parts ← traceAll scope parts
    return ⟨← Value.joinTexts (parts.map (·.value)), .made⟩
  | .compared t rest => do
    return ⟨.bool (← traceComparisons scope (← t.trace scope).value rest), .common⟩
  | .conditional c a b line => do
    if ← (← c.trace scope).value.truth then a.trace scope
    else
      match b with
      | none => return ⟨noBranch line, .made⟩
      | some t => t.trace scope
  | .attribute t name => do
    let x ← t.trace scope
    let v ← x.value.lookUpAttribute name
    return partOf x v (.ofAttribute v x name)
  | .item t (.slice a b c) => do
    let x ← t.trace scope
    let start ← traceOption scope a
    let stop ← traceOption scope b
    let key := .slice (valueOf start) (valueOf stop) (valueOf (← traceOption scope c))
    let v ← x.value.subscript key
    return ⟨v, .ofItem v x key⟩
  | .item t key => do
    let x ← t.trace scope
    let key := (← key.trace scope).value
    let v ← x.value.lookUpItem key
    return partOf x v (.ofItem v x key)
  | .slice a b c => do
    let start ← traceOption scope a
    let stop ← traceOption scope b
    return ⟨.slice (valueOf start) (valueOf stop) (valueOf (← traceOption scope c)), .made⟩
  | .call t xs named rest restNamed => do
    let callee ← t.trace scope
    let positional ← traceAll scope xs
    let more ← spreadTraced (← traceOption scope rest)
    let named ← traceNamed scope named
    let args : TracedArguments := ⟨positional ++ more, named, ← traceOption scope restNamed⟩
    let v ← callee.value.call (← args.pass callLabel)
    return ⟨v, .ofCall v callee args.all⟩
  | .filter t name xs named rest restNamed => do
    let x ← t.trace scope
    let positional ← traceAll scope xs
    let more ← spreadTraced (← traceOption scope rest)
    let named ← traceNamed scope named
    let args : TracedArguments := ⟨positional ++ more, named, ← traceOption scope restNamed⟩
    let label := scope.filterLabel name
    let passed ← args.pass label
    if knowsFilter name then filterTraced name x args passed
    else refuse "filter" name label passed
  | .test t name xs named rest restNamed => do
    let x ← t.trace scope
    let positional ← traceAll scope xs
    let more ← spreadTraced (← traceOption scope rest)
    let named ← traceNamed scope named
    let args : TracedArguments := ⟨positional ++ more, named, ← traceOption scope restNamed⟩
    let label := scope.testLabel name
    let passed ← args.pass label
    if knowsTest name then testTraced name x args passed
    else refuse "test" name label passed

def traceAll (scope : Scope) : List Term → Result (List Traced)
  | [] => .ok []
  | t :: ts => do
    let v ← t.trace scope
    return v :: (← traceAll scope ts)

def traceEntries (scope : Scope) : List (Term × Term) → Result (List (Traced × Traced))
  | [] => .ok []
  | (k, t) :: rest => do
    let key ← k.trace scope
    let v ← t.trace scope
    return (key, v) :: (← traceEntries scope rest)

def traceNamed (scope : Scope) : List (String × Term) → Result (List (String × Traced))
  | [] => .ok []
  | (key, t) :: rest => do
    let v ← t.trace scope
    return (key, v) :: (← traceNamed scope rest)

def traceOption (scope : Scope) : Option Term → Result (Option Traced)
  | none => .ok none
  | some t => do return some (← t.trace scope)

def traceComparisons (scope : Scope) : Value → List (Comparison × Term) → Result Bool
  | _, [] => .ok true
  | v, (c, t) :: rest => do
    let w := (← t.trace scope).value
    if ← c.holds v w then traceComparisons scope w rest else return false
end

/-- The value of a term. -/
def Term.eval (scope : Scope) (t : Term) : Result Value := do return (← t.trace scope).value

end Stencil.Expr
