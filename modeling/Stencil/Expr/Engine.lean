import Stencil.Expr.Form
import Stencil.Render.Context

/-!
# Contexts with expressions

Bindings of names to text, and a context that gives expressions their value in them. The context is built
over any engine that prepares and runs expressions, so that what it promises does not hang on the engine:
it keeps the bindings, and its answers depend on nothing else. Prepared expressions are kept too, each one
next to the text it was prepared from.
-/
namespace Stencil.Expr

open Render (Action Context Event)

/-! ### Bindings -/

/-- Names and what they are bound to; each name once. -/
abbrev Bindings := List (String × String)

namespace Bindings

def get? (b : Bindings) (name : String) : Option String := b.lookup name

/-- Binds a name. A name that is bound already keeps its place. -/
def set (b : Bindings) (name value : String) : Bindings :=
  match b with
  | [] => [(name, value)]
  | (n, v) :: rest => if n = name then (name, value) :: rest else (n, v) :: set rest name value

def unset (b : Bindings) (name : String) : Bindings := b.filter fun p => p.1 ≠ name

/-- Binds a name to a value, which has to be text. -/
def bind (b : Bindings) (name : String) (v : Value) : Except Error Bindings :=
  match v.text? with
  | some s => .ok (b.set name s)
  | none => .error (.badBinding name v.typeName)

/-- Binds all names in order. -/
def ofValues (entries : List (String × Value)) : Except Error Bindings :=
  entries.foldlM (fun b p => b.bind p.1 p.2) []

theorem get?_set_self (b : Bindings) (name value : String) :
    (b.set name value).get? name = some value := by
  induction b with
  | nil => simp [set, get?]
  | cons p rest ih =>
    obtain ⟨n, v⟩ := p
    simp only [get?] at ih
    by_cases h : n = name
    · simp [set, get?, h]
    · have hb : (name == n) = false := by simpa using fun e => h e.symm
      simp [set, get?, h, List.lookup_cons, hb, ih]

theorem get?_set_of_ne (b : Bindings) {name other : String} (value : String) (h : other ≠ name) :
    (b.set name value).get? other = b.get? other := by
  have ho : (other == name) = false := by simpa using h
  induction b with
  | nil => simp [set, get?, List.lookup_cons, ho]
  | cons p rest ih =>
    obtain ⟨n, v⟩ := p
    simp only [get?] at ih
    by_cases hn : n = name
    · subst hn
      simp [set, get?, List.lookup_cons, ho]
    · simp only [set, hn, if_false, get?, List.lookup_cons, ih]

theorem get?_unset_self (b : Bindings) (name : String) : (b.unset name).get? name = none := by
  rw [unset, get?, List.lookup_eq_none_iff]
  intro p hp
  have hn := (List.mem_filter.1 hp).2
  simp only [ne_eq, decide_not, Bool.not_eq_true', decide_eq_false_iff_not] at hn
  simpa using Ne.symm hn

theorem get?_unset_of_ne (b : Bindings) {name other : String} (h : other ≠ name) :
    (b.unset name).get? other = b.get? other := by
  induction b with
  | nil => rfl
  | cons p rest ih =>
    obtain ⟨n, v⟩ := p
    simp only [unset, get?, ne_eq, decide_not] at ih
    by_cases hn : n = name
    · subst hn
      have ho : (other == n) = false := by simpa using h
      simp [unset, get?, List.lookup_cons, ho, ih]
    · simp [unset, get?, List.lookup_cons, hn, ih]

end Bindings

/-! ### Engines -/

/-- Prepares the text of an expression, and runs what it prepared where names are bound. -/
structure Engine where
  Program : Type
  compile : String → Except Refusal Program
  run : Program → Bindings → Result Value

/-- The error of an expression that tells a message. Where there is none, what is raised comes out. -/
def report (s : String) (flaw : String → EvaluationFlaw) : Message → Error
  | .told text => .evaluation (flaw text) s
  | .untold stray => .stray stray

/-- How a failure to run an expression is reported. -/
def Failure.flaw : Failure → String → EvaluationFlaw
  | undefined _ => .undefinedName
  | rejected _ => .rejected
  | raised .. => .failed

namespace Engine

/-- Expressions that are prepared already. -/
abbrev Prepared (e : Engine) :=
  { entries : List (String × e.Program) // ∀ p ∈ entries, e.compile p.1 = .ok p.2 }

/-- The program of an expression, and what is prepared from now on. -/
def prepare (e : Engine) (known : e.Prepared) (s : String) :
    Except Refusal e.Program × e.Prepared :=
  match known.1.lookup s with
  | some p => (.ok p, known)
  | none =>
    match h : e.compile s with
    | .error refusal => (.error refusal, known)
    | .ok p => (.ok p, ⟨(s, p) :: known.1, by
        intro q hq
        rcases List.mem_cons.1 hq with rfl | hq
        · exact h
        · exact known.2 q hq⟩)

/-- What was prepared earlier cannot be told from what is prepared now. -/
theorem prepare_fst (e : Engine) (known : e.Prepared) (s : String) :
    (e.prepare known s).1 = e.compile s := by
  unfold prepare
  split
  · rename_i p h
    have hp : (s, p) ∈ known.1 := by
      obtain ⟨l, r, hl, -⟩ := List.lookup_eq_some_iff.1 h
      simp [hl]
    exact (known.2 _ hp).symm
  · split <;> simp_all

/-- The value of a program, which is never absent. -/
def finish (e : Engine) (b : Bindings) (s : String) :
    Except Refusal e.Program → Except Error Value
  | .error (.badSyntax message) => .error (report s .badSyntax message)
  | .error (.badForm message) => .error (.stray ⟨.badForm, message⟩)
  | .error (.failed f) => .error (.stray f.stray)
  | .ok p =>
    match e.run p b with
    | .error f => .error (report s f.flaw f.message)
    | .ok (.absent _) => .error (.evaluation .undefinedResult s)
    | .ok v => .ok v

/-- The value of an expression where names are bound. -/
def evaluate (e : Engine) (b : Bindings) (s : String) : Except Error Value :=
  e.finish b s (e.compile s)

def asCondition (s : String) : Value → Except Error Bool
  | .bool c => .ok c
  | v => .error (.evaluation (.notBoolean v.typeName) s)

def asText (s : String) (v : Value) : Except Error String :=
  match v.text? with
  | some t => .ok t
  | none => .error (.evaluation (.notText v.typeName) s)

def condition (e : Engine) (b : Bindings) (s : String) : Except Error Bool := do
  asCondition s (← e.evaluate b s)

def textOf (e : Engine) (b : Bindings) (s : String) : Except Error String := do
  asText s (← e.evaluate b s)

/-- What a report shows of a value. -/
def shown (v : Value) : String := v.literal.toOption.getD ""

/-- What a context keeps. -/
structure Memory (e : Engine) where
  bindings : Bindings
  prepared : e.Prepared

/-- The memory of a context that has not been used yet. -/
def Memory.fresh (e : Engine) (b : Bindings) : e.Memory := ⟨b, [], by simp⟩

variable {m : Type → Type} [Monad m]

/-- The value of an expression in the bindings of the state, reported. -/
def evaluateHere (e : Engine) [MonadStateOf e.Memory m] (report : Event → m Unit) (s : String) :
    Action m Value := do
  let memory ← getThe e.Memory
  let (program, prepared) := e.prepare memory.prepared s
  set { memory with prepared }
  match e.finish memory.bindings s program with
  | .error error => throw error
  | .ok v =>
    report (.evaluated s (shown v))
    return v

/-- The context that keeps its bindings in the state. -/
def context (e : Engine) [MonadStateOf e.Memory m] (report : Event → m Unit) : Context m where
  evalCondition s := do ExceptT.mk (pure (asCondition s (← e.evaluateHere report s)))
  evalText s := do ExceptT.mk (pure (asText s (← e.evaluateHere report s)))
  get name := do return (← getThe e.Memory).bindings.get? name
  set name value :=
    modifyThe e.Memory fun memory => { memory with bindings := memory.bindings.set name value }
  unset name :=
    modifyThe e.Memory fun memory => { memory with bindings := memory.bindings.unset name }
  report := report

end Engine

/-! ### The engine of expressions -/

/-- Names are bound to text. The name of the template itself means the template. -/
def scopeOf (b : Bindings) (name : String) : Option Value :=
  match b.get? name with
  | some s => some (.text s)
  | none => if name = Form.templateName then some .template else none

def selfTaken : String :=
  "TemplateExpression.__call__() got multiple values for argument 'self'"

/-- Forms as programs. No expression can be run where the name of the template is bound. -/
def engine : Engine where
  Program := Form
  compile := Form.compile
  run form b :=
    if (b.get? Form.templateName).isSome then typeError selfTaken else form.run (scopeOf b)

end Stencil.Expr
