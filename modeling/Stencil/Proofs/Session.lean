import Stencil.Proofs.Render.Binding
import Stencil.Session

/-!
# Sessions without a history

A session lasts over many steps. Its context keeps the programs of the expressions it has met, and transforms
bind and unbind names while a template renders. Main statement: what a session answers hangs on its bindings
and its templates alone, so a new session with these gives each answer as well; and the bindings are those
that the steps before have set and unset by name.
-/
namespace Stencil.Expr

open Render (Action Context InStep Library Loader outcome outcome_bind outcome_ensuring)

/-! ### Bindings that come back -/

namespace Bindings

theorem set_set_of_get? {b : Bindings} {name former : String} (h : b.get? name = some former)
    (value : String) : (b.set name value).set name former = b := by
  induction b with
  | nil => cases h
  | cons p rest ih =>
    obtain ⟨n, v⟩ := p
    by_cases hn : n = name
    · subst hn
      obtain rfl : v = former := by simpa [get?] using h
      simp [set]
    · have hb : (name == n) = false := by simpa using Ne.symm hn
      have hrest : get? rest name = some former := by simpa [get?, List.lookup_cons, hb] using h
      simp only [set, hn, if_false, ih hrest]

theorem unset_set_of_get? {b : Bindings} {name : String} (h : b.get? name = none) (value : String) :
    (b.set name value).unset name = b := by
  induction b with
  | nil => simp [set, unset]
  | cons p rest ih =>
    obtain ⟨n, v⟩ := p
    by_cases hn : n = name
    · subst hn
      simp [get?] at h
    · have hb : (name == n) = false := by simpa using Ne.symm hn
      have hrest : get? rest name = none := by simpa [get?, List.lookup_cons, hb] using h
      simp only [unset] at ih
      simp only [set, hn, if_false, unset, List.filter_cons, ne_eq, not_false_eq_true, decide_true,
        if_true, ih hrest]

/-- Binds a name to its former value, or to nothing. -/
def restore (b : Bindings) (name : String) : Option String → Bindings
  | some value => b.set name value
  | none => b.unset name

/-- What a transform binds is gone afterwards, and the other bindings have kept their places. -/
theorem restore_set (b : Bindings) (name value : String) :
    (b.set name value).restore name (b.get? name) = b := by
  cases h : b.get? name with
  | some former => exact set_set_of_get? h value
  | none => exact unset_set_of_get? h value

end Bindings

/-! ### Renders with the same bindings -/

namespace Engine

variable (e : Engine)

/-- Two memories with the bindings `b`. What they have prepared is free. -/
def Holding (b : Bindings) (memory memory' : e.Memory) : Prop :=
  memory.bindings = b ∧ memory'.bindings = b

/-- The context of a session, whose reports go nowhere. -/
abbrev silent : Context (StateM e.Memory) := e.context fun _ => pure ()

theorem outcome_rebind (name : String) (former : Option String) (memory : e.Memory) :
    outcome (e.silent.rebind name former) memory
      = (.ok (), { memory with bindings := memory.bindings.restore name former }) := by
  cases former <;> rfl

/-- A transform is the value of its expression where its name is bound to the body, and changes nothing but
what is prepared. -/
theorem outcome_transform (name expression body : String) (memory : e.Memory) :
    outcome (e.silent.valuation.transform name expression body) memory
      = (e.textOf (memory.bindings.set name body) expression,
          { memory with prepared := (e.prepare memory.prepared expression).2 }) := by
  have hget : outcome (e.silent.get name) memory = (.ok (memory.bindings.get? name), memory) := rfl
  have hset : outcome (e.silent.set name body) memory
      = (.ok (), { memory with bindings := memory.bindings.set name body }) := rfl
  -- The name is bound as before whether the expression has a value or not.
  simp only [Context.valuation, outcome_bind, hget, hset, outcome_ensuring, e.outcome_evalText,
    e.outcome_rebind, Bindings.restore_set]
  cases e.textOf (memory.bindings.set name body) expression with
  | error error => rfl
  | ok text => rfl

section

variable {e} {α : Type} {b : Bindings}

/-- An action whose result hangs on the bindings and that leaves them alone. -/
theorem inStep_holding {x : Action (StateM e.Memory) α} (result : Bindings → Except Error α)
    (h : ∀ memory, ∃ prepared, outcome x memory = (result memory.bindings, { memory with prepared })) :
    InStep (e.Holding b) x x := by
  rintro memory memory' ⟨hb, hb'⟩
  obtain ⟨prepared, hx⟩ := h memory
  obtain ⟨prepared', hx'⟩ := h memory'
  rw [hx, hx', hb, hb']
  exact ⟨rfl, rfl, rfl⟩

end

variable (b : Bindings)

theorem condition_holding (expression : String) :
    InStep (e.Holding b) (e.silent.evalCondition expression) (e.silent.evalCondition expression) :=
  inStep_holding (e.condition · expression) fun memory => ⟨_, e.outcome_evalCondition expression memory⟩

theorem text_holding (expression : String) :
    InStep (e.Holding b) (e.silent.evalText expression) (e.silent.evalText expression) :=
  inStep_holding (e.textOf · expression) fun memory => ⟨_, e.outcome_evalText expression memory⟩

theorem get_holding (name : String) : InStep (e.Holding b) (e.silent.get name) (e.silent.get name) :=
  inStep_holding (fun b => .ok (b.get? name)) fun memory => ⟨memory.prepared, rfl⟩

theorem transform_holding (name expression body : String) :
    InStep (e.Holding b) (e.silent.valuation.transform name expression body)
      (e.silent.valuation.transform name expression body) :=
  inStep_holding (fun b => e.textOf (b.set name body) expression) fun memory =>
    ⟨_, e.outcome_transform name expression body memory⟩

variable {library library' : Library} (hlibrary : ∀ path, library.lookup path = library'.lookup path)

include hlibrary

theorem loader_holding (path : String) :
    InStep (e.Holding b) (library.loader path) (library'.loader path) := by
  unfold Library.loader
  rw [hlibrary path]
  cases library'.lookup path with
  | some text => exact .pure _
  | none => exact .throw _

theorem renderText_holding (limit : Nat) (text : String) :
    InStep (e.Holding b) (Render.renderText e.silent (some library.loader) limit text)
      (Render.renderText e.silent (some library'.loader) limit text) := by
  have hreport (event : Render.Event) : InStep (e.Holding b) (liftM (e.silent.report event))
      (liftM (e.silent.report event)) := fun _ _ hb => ⟨rfl, hb⟩
  refine (InStep.liftExcept _).bind fun limit => (InStep.parseReported hreport limit text).bind fun blocks => ?_
  rw [Render.generate_eq, Render.generate_eq]
  exact .evaluate (e.condition_holding b) (e.transform_holding b)
    (.includedBlocks hreport (.some (e.loader_holding b hlibrary)) limit) 0 [] blocks

end Engine

end Stencil.Expr

namespace Stencil.Session

open Stencil.Expr (Bindings Engine)
open Render (Action Context InStep Library)

variable {e : Engine}

/-! ### Steps -/

/-- What a step does to the bindings: only setting a name to a text and unsetting a name change them. -/
def Step.effect (b : Bindings) : Step → Bindings
  | .set name v => match v.text? with
    | some value => b.set name value
    | none => b
  | .unset name => b.unset name
  | .get _ | .condition _ | .text _ | .render _ | .addTemplate _ _ | .load _ | .copyAndSet _ _ => b

def Step.template? : Step → Option (String × String)
  | .addTemplate path content => some (path, content)
  | _ => none

/-- Sessions with the same bindings and the same templates. -/
structure Alike (s s' : Session e) : Prop where
  bindings : s.memory.bindings = s'.memory.bindings
  templates (path : String) : s.library.lookup path = s'.library.lookup path

theorem act_alike {α : Type} {s s' : Session e} (h : s.Alike s')
    {x x' : Context (StateM e.Memory) → Action (StateM e.Memory) α}
    (hx : InStep (e.Holding s.memory.bindings) (x e.silent) (x' e.silent)) :
    (s.act x).1 = (s'.act x').1 ∧ (s.act x).2.memory.bindings = s.memory.bindings := by
  obtain ⟨hresult, hbindings, -⟩ := hx s.memory s'.memory ⟨rfl, h.bindings.symm⟩
  exact ⟨hresult, hbindings⟩

/-- Sessions that are alike answer a step alike, and it has its effect on the bindings. -/
theorem step_alike {s s' : Session e} (h : s.Alike s') (limit : Nat) (t : Step) :
    (s.step limit t).1 = (s'.step limit t).1 ∧
      (s.step limit t).2.memory.bindings = t.effect s.memory.bindings := by
  cases t with
  | set name v =>
    simp only [step, Bindings.bind, Step.effect]
    cases v.text? <;> exact ⟨rfl, rfl⟩
  | unset name => exact ⟨rfl, rfl⟩
  | get name =>
    exact act_alike h ((e.get_holding _ name).bind fun former => by cases former <;> exact .pure _)
  | condition expression => exact act_alike h ((e.condition_holding _ expression).bind fun _ => .pure _)
  | text expression => exact act_alike h ((e.text_holding _ expression).bind fun _ => .pure _)
  | render text => exact act_alike h ((e.renderText_holding _ h.templates limit text).bind fun _ => .pure _)
  | addTemplate path text => exact ⟨rfl, rfl⟩
  | load path => exact act_alike h ((e.loader_holding _ h.templates path).bind fun _ => .pure _)
  | copyAndSet name value => exact ⟨by rw [step, step, h.bindings], rfl⟩

/-- A template is found first where it was added last. -/
theorem lookup_step (s : Session e) (limit : Nat) (t : Step) (path : String) :
    (s.step limit t).2.library.lookup path = (t.template?.toList ++ s.library).lookup path := by
  cases t with
  | addTemplate added text =>
    by_cases hp : path = added
    · subst hp
      simp [step, add, Step.template?]
    · have hb : (path == added) = false := by simpa using hp
      have hunset := Bindings.get?_unset_of_ne s.library hp
      simp only [Bindings.get?, Bindings.unset] at hunset
      simpa [step, add, Step.template?, List.lookup_cons, hb] using hunset
  | set name v =>
    simp only [step, Step.template?]
    cases s.memory.bindings.bind name v <;> rfl
  | _ => rfl

/-! ### Runs -/

def after (limit : Nat) (s : Session e) (steps : List Step) : Session e :=
  steps.foldl (fun s t => (s.step limit t).2) s

/-- The bindings that steps leave behind. -/
def replay (b : Bindings) (steps : List Step) : Bindings := steps.foldl Step.effect b

/-- The templates that steps add, in front of those that are there. -/
def stock (library : Library) (steps : List Step) : Library :=
  (steps.filterMap Step.template?).reverse ++ library

theorem bindings_after (limit : Nat) (s : Session e) (steps : List Step) :
    (s.after limit steps).memory.bindings = replay s.memory.bindings steps := by
  induction steps generalizing s with
  | nil => rfl
  | cons t steps ih =>
    obtain ⟨-, hstep⟩ := step_alike (s := s) ⟨rfl, fun _ => rfl⟩ limit t
    exact (ih _).trans (congrArg (replay · steps) hstep)

theorem lookup_after (limit : Nat) (s : Session e) (steps : List Step) (path : String) :
    (s.after limit steps).library.lookup path = (stock s.library steps).lookup path := by
  induction steps generalizing s with
  | nil => rfl
  | cons t steps ih =>
    refine (ih (s.step limit t).2).trans ?_
    simp only [stock, List.lookup_append, lookup_step, List.filterMap_cons]
    cases t.template? <;> simp [List.lookup_append, Option.or_assoc]

/-- A session has no history besides its bindings and its templates. After any steps, failed ones among them,
the bindings are those that the sets and unsets have left, and each further step is answered as by a new
session over these bindings and the templates so far. -/
theorem step_after_eq_fresh (e : Engine) (limit : Nat) (b : Bindings) (library : Library) (steps : List Step)
    (t : Step) :
    let s := (fresh e b library).after limit steps
    s.memory.bindings = replay b steps ∧
      (s.step limit t).1 = ((fresh e (replay b steps) (stock library steps)).step limit t).1 := by
  intro s
  have hbindings : s.memory.bindings = replay b steps := bindings_after limit _ steps
  exact ⟨hbindings, (step_alike ⟨hbindings, lookup_after limit _ steps⟩ limit t).1⟩

end Stencil.Session
