import Stencil.Expr.Filter
import Stencil.Expr.Method
import Stencil.Expr.Term
import Stencil.Text.NameForm

/-!
# Steps of evaluation

What evaluation does at one node of a term once the values of its parts are there. Evaluating a term and
working out a constant share these steps.
-/
namespace Stencil.Expr

/-- Does `a` stand to `b` as the comparison asks? -/
def Comparison.holds (c : Comparison) (a b : Value) : Result Bool :=
  match c with
  | .eq => Value.equal a b
  | .ne => do return !(← Value.equal a b)
  | .ordered op => Value.ordered op a b
  | .isIn => Value.contains a b
  | .notIn => do return !(← Value.contains a b)

def Sign.apply : Sign → Value → Result Value
  | .minus, v => v.negate
  | .plus, v => v.plus

/-- The items of a value whose items are passed on as arguments. -/
def spread (v : Value) : Result (List Value) :=
  match v.items with
  | .error (.raised .type _) => typeError s!"Value after * must be an iterable, not {v.typeName}"
  | .error f => .error f
  | .ok _ => v.toList

/-- Adds the entries of a value to the arguments passed by name. `callee` is for messages. -/
def spreadNamed (callee : String) (named : List (String × Value)) (v : Value) :
    Result (List (String × Value)) :=
  match v with
  | .dict entries =>
    entries.foldlM (fun named entry =>
      match entry.1.text? with
      | none => typeError "keywords must be strings"
      | some key =>
        if named.any (·.1 == key) then
          typeError s!"{callee} got multiple values for keyword argument '{key}'"
        else .ok (named ++ [(key, entry.2)])) named
  | v => typeError s!"{callee} argument after ** must be a mapping, not {v.typeName}"

/-- Words that stand for something else in the form that is run, so that arguments of such names are passed
in a mapping. -/
def reservedWords : List String := Text.words
  ["False None True and as assert async await break class continue def del elif else except finally",
   "for from global if import in is lambda nonlocal not or pass raise return try while with yield"]

def isReserved {α : Type} (named : List (String × α)) : Bool :=
  named.any fun p => reservedWords.contains p.1

/-- Binds a key, which keeps its place if it is bound already. -/
def putNamed {α : Type} (key : String) (v : α) : List (String × α) → List (String × α)
  | [] => [(key, v)]
  | (k, w) :: rest => if k == key then (k, v) :: rest else (k, w) :: putNamed key v rest

/-- Arguments by name, of which the last one of a name counts. -/
def lastNamed {α : Type} (named : List (String × α)) : List (String × α) :=
  named.foldl (fun done p => putNamed p.1 p.2 done) []

/-- Adds entries to arguments by name. An entry takes the place of an argument of its name. -/
def overrideNamed (named : List (String × Value)) (entries : List (Value × Value)) :
    Result (List (String × Value)) :=
  entries.foldlM (fun named entry =>
    match entry.1.text? with
    | none => typeError "keywords must be strings"
    | some key => .ok (putNamed key entry.2 named)) named

/-- The arguments by name of a call, with the entries of `more` if that is given. A name counts in the form
that all ways to write it share, unless a reserved word is among them. -/
def nameArguments (callee : String) (named : List (String × Value)) (more : Option Value) :
    Result (List (String × Value)) :=
  if isReserved named then
    match more with
    | none => .ok (lastNamed named)
    | some (.dict entries) => overrideNamed (lastNamed named) entries
    | some v => typeError s!"dict() argument after ** must be a mapping, not {v.typeName}"
  else
    let named := named.map fun p => (Text.nameForm p.1, p.2)
    match more with
    | none => .ok named
    | some v => spreadNamed callee named v

/-- A key and a value from an item that holds the two. -/
def pairOf (item : Value) : Result (Value × Value) := do
  match ← item.toList with
  | [key, v] =>
    key.checkKey
    return (key, v)
  | _ => valueError "dictionary update sequence element has the wrong length"

/-- The arguments by name where a constant is worked out: names count as they are written, and entries may
come as pairs. -/
def constantArguments (named : List (String × Value)) (more : Option Value) :
    Result (List (String × Value)) := do
  match more with
  | none => return lastNamed named
  | some (.dict entries) => overrideNamed (lastNamed named) entries
  | some v => overrideNamed (lastNamed named) (← (← v.toList).mapM pairOf)

def unknown {α : Type} (kind name : String) : Result α :=
  .error (.raised .engine s!"No {kind} named {Text.quote name} found.")

def knowsFilter (name : String) : Bool := filterNames.contains name

def knowsTest (name : String) : Bool := (Test.interface? name).isSome

def applyFilter (name : String) (v : Value) (args : Arguments) : Result Value :=
  if knowsFilter name then Filter.apply name v args else unknown "filter" name

def applyTest (name : String) (v : Value) (args : Arguments) : Result Value :=
  match Test.interface? name with
  | some i => do return .bool (← Test.ask name i ⟨v :: args.positional, args.named⟩)
  | none => unknown "test" name

/-- How messages name what is called. -/
def filterLabel (name : String) : String :=
  match name, Filter.interface? name with
  | "escape", some (.named s) | "e", some (.named s) | "string", some (.named s) =>
    s!"markupsafe.{s.name}()"
  | _, some (.named s) => s!"jinja2.filters.{s.name}()"
  | _, some (.single name) | _, some (.pair name) => s!"{name}()"
  | _, none =>
    if Filter.isPerItem name then s!"jinja2.filters.sync_do_{name}()"
    else s!"jinja2.filters.do_{name}()"

def testLabel (name : String) : String :=
  match Test.interface? name with
  | some (.named s) => s!"jinja2.tests.{s.name}()"
  | some (.single name) => s!"{name}()"
  | some (.pair name) => s!"_operator.{name}()"
  | none => name ++ "()"

def callLabel : String := "jinja2.sandbox.SandboxedEnvironment.call()"

end Stencil.Expr
