import Stencil.Expr.Eval
import Stencil.Expr.Misplaced

/-!
# The form that is run

An expression is brought into a form that is run where names are bound. Not every term has one: slices cannot
stand in a tuple, and a call cannot take two arguments of one name. In the form, names
that differ only in the way they are written are one name.
-/
namespace Stencil.Expr

/-- A prepared term, what the names that it mentions mean, and the filters and tests that it mentioned before
its constants were worked out. -/
structure Form where
  term : Term
  meanings : List (String × Option String)
  filters : List String
  tests : List String

namespace Form

/-! ### Names -/

/-- The name that the value of an expression has in the form. -/
def resultName : String := "result"

/-- The name that means the template. -/
def templateName : String := "self"

/-- The names in the order in which the form looks them up. -/
def lookUpOrder (names : List String) : List String :=
  if names.contains templateName then templateName :: names.filter (· ≠ templateName) else names

/-- The name whose binding counts for a name: the last one looked up of those that are written in another way
only. The value of the expression takes its name away from all that do not write it like this. -/
def meaning? (names : List String) (name : String) : Option String :=
  let form := Text.nameForm name
  if form = resultName && !names.contains resultName then none
  else ((lookUpOrder names).filter fun other => Text.nameForm other = form).getLast?

/-! ### Terms without a form -/

/-- What is wrong with names of arguments: the first one that cannot be bound or that comes again. -/
def namesFault? : List String → Option String
  | [] => none
  | key :: rest =>
    if key = "__debug__" then some "cannot assign to __debug__"
    else if rest.contains key then some s!"keyword argument repeated: {key}"
    else namesFault? rest

/-- What is wrong with the arguments of a call, a filter or a test. -/
def argumentFault? : Term → Option String
  | .call _ _ named _ _ | .filter _ _ _ named _ _ | .test _ _ _ named _ _ =>
    if isReserved named then none else namesFault? (named.map fun p => Text.nameForm p.1)
  | _ => none

/-- The line of the form that the term stands on: behind those that name its parts. A name takes one line, a
filter or a test takes six, and twelve come in any case. -/
def lineOf (raw : Term) : Nat :=
  let names := raw.names
  let named := if names.contains resultName then names.length - 1 else names.length
  12 + named + 6 * (raw.filters.length + raw.tests.length)

/-- Why a prepared term has no form. -/
def fault? (prepared : Term) : Option String :=
  match prepared.misplaced? with
  | some m => some m.message
  | none => (prepared.gather fun t => (argumentFault? t).toList).head?

/-! ### Making and running a form -/

/-- The form of a term, which is `prepared` with its constants worked out. -/
def of (raw prepared : Term) : Except Refusal Form :=
  match fault? prepared with
  | some message => .error (.badForm s!"{message} (<template>, line {lineOf raw})")
  | none =>
    .ok { term := prepared
          meanings := raw.names.map fun name => (name, meaning? raw.names name)
          filters := raw.filters
          tests := raw.tests }

/-- The form of an expression. -/
def compile (s : String) : Except Refusal Form := do
  let raw ← Term.read s
  of raw (← raw.prepare)

/-- The value of an expression where `find?` binds names. -/
def run (form : Form) (find? : String → Option Value) : Result Value :=
  form.term.eval
    { find? := fun name => ((form.meanings.lookup name).join).bind find?
      meaning := fun name => ((form.meanings.lookup name).join).getD name
      filters := form.filters
      tests := form.tests }

end Form

end Stencil.Expr
