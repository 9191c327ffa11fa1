import Stencil.Proofs.Render.Coupling

/-!
# Recorded renders

A context over a state monad is a machine: each call is answered or fails, and leads to the next state.
A render over such a machine and over a loader with a state of its own goes through worlds, which also
hold a log of the calls. Main statements: from every world, the stack of frames and the recursion over
the blocks have one outcome, calls and states included; and a relation between worlds that conditions,
transforms and includes keep is kept by whole renders, which then have equal results.
-/
namespace Stencil.Render

open Template (Block Directive)

/-- What a render asks of its context. -/
inductive Call where
  | condition (expression : String)
  | text (expression : String)
  | get (name : String)
  | set (name value : String)
  | unset (name : String)
  deriving DecidableEq, Repr

/-- The states of a context and of a loader, and notes on the calls of the context so far. -/
structure World (σ τ ι : Type) where
  state : σ
  supply : τ
  log : List ι

/-! ### Outcomes -/

section

variable {ω α β : Type}

/-- The result of an action in a state, and the state after it. -/
def outcome (x : Action (StateM ω) α) (w : ω) : Except Error α × ω := x.run.run w

@[simp] theorem outcome_pure (a : α) (w : ω) : outcome (pure a) w = (.ok a, w) := rfl

@[simp] theorem outcome_throw (e : Error) (w : ω) :
    outcome (throw e : Action (StateM ω) α) w = (.error e, w) := rfl

@[simp] theorem outcome_liftM (x : StateM ω α) (w : ω) :
    outcome (liftM x : Action (StateM ω) α) w = (.ok (x.run w).1, (x.run w).2) := rfl

@[simp] theorem outcome_liftExcept (r : Except Error α) (w : ω) :
    outcome (liftM r : Action (StateM ω) α) w = (r, w) := by
  cases r <;> rfl

theorem outcome_bind (x : Action (StateM ω) α) (f : α → Action (StateM ω) β) (w : ω) :
    outcome (x >>= f) w = match outcome x w with
      | (.ok a, w') => outcome (f a) w'
      | (.error e, w') => (.error e, w') := by
  simp only [outcome, ExceptT.run_bind, StateT.run_bind]
  change (match x.run.run w with | (r, w') => _) = _
  rcases x.run.run w with ⟨r, w'⟩
  cases r <;> rfl

theorem outcome_bind_of_ok {x : Action (StateM ω) α} {w w' : ω} {a : α} (h : outcome x w = (.ok a, w'))
    (f : α → Action (StateM ω) β) : outcome (x >>= f) w = outcome (f a) w' := by
  rw [outcome_bind, h]

theorem outcome_bind_of_failure {x : Action (StateM ω) α} {w w' : ω} {e : Error} (h : outcome x w = (.error e, w'))
    (f : α → Action (StateM ω) β) : outcome (x >>= f) w = (.error e, w') := by
  rw [outcome_bind, h]

theorem outcome_bind_eq_ok {x : Action (StateM ω) α} {f : α → Action (StateM ω) β} {w w' : ω} {b : β}
    (h : outcome (x >>= f) w = (.ok b, w')) :
    ∃ a w₁, outcome x w = (.ok a, w₁) ∧ outcome (f a) w₁ = (.ok b, w') := by
  rcases hx : outcome x w with ⟨r, w₁⟩
  rw [outcome_bind, hx] at h
  cases r with
  | ok a => exact ⟨a, w₁, rfl, h⟩
  | error e => cases h

theorem outcome_bind_eq_error {x : Action (StateM ω) α} {f : α → Action (StateM ω) β} {w w' : ω} {e : Error}
    (h : outcome (x >>= f) w = (.error e, w')) :
    outcome x w = (.error e, w') ∨ ∃ a w₁, outcome x w = (.ok a, w₁) ∧ outcome (f a) w₁ = (.error e, w') := by
  rcases hx : outcome x w with ⟨r, w₁⟩
  rw [outcome_bind, hx] at h
  cases r with
  | ok a => exact .inr ⟨a, w₁, rfl, h⟩
  | error e' =>
    cases h
    exact .inl rfl

theorem outcome_bind_of_error {x : Action (StateM ω) α} {w : ω} {e : Error}
    (h : (outcome x w).1 = .error e) (f : α → Action (StateM ω) β) :
    (outcome (x >>= f) w).1 = .error e := by
  rw [outcome_bind]
  rcases hx : outcome x w with ⟨r, w'⟩
  rw [hx] at h
  cases h
  rfl

@[simp] theorem outcome_map (f : α → β) (x : Action (StateM ω) α) (w : ω) :
    outcome (f <$> x) w = ((outcome x w).1.map f, (outcome x w).2) := by
  rw [map_eq_pure_bind, outcome_bind]
  rcases outcome x w with ⟨r, w'⟩
  cases r <;> rfl

theorem outcome_ensuring (x : Action (StateM ω) α) (last : Action (StateM ω) Unit) (w : ω) :
    outcome (ensuring x last) w = match outcome last (outcome x w).2 with
      | (.ok _, w') => ((outcome x w).1, w')
      | (.error e, w') => (.error e, w') := by
  have hx : outcome (ExceptT.lift x.run) w = (.ok (outcome x w).1, (outcome x w).2) := rfl
  rw [ensuring, outcome_bind, hx]
  simp only [outcome_bind]
  rcases outcome last (outcome x w).2 with ⟨r, w'⟩
  cases r with
  | error e => rfl
  | ok u => cases (outcome x w).1 <;> rfl

end

/-! ### Worlds -/

section

variable {σ τ ι α : Type}

/-- Lets the context act, with a note on the state it acts in. -/
def ask (x : Action (StateM σ) α) (note : σ → ι) : Action (StateM (World σ τ ι)) α :=
  ExceptT.mk fun w =>
    let (result, state) := outcome x w.state
    (result, { w with state, log := w.log ++ [note w.state] })

/-- The context of a world, which notes all calls and the states they are made in. -/
def Context.recorded (c : Context (StateM σ)) (note : Call → σ → ι) :
    Context (StateM (World σ τ ι)) where
  evalCondition expression := ask (c.evalCondition expression) (note (.condition expression))
  evalText expression := ask (c.evalText expression) (note (.text expression))
  get name := ask (c.get name) (note (.get name))
  set name value := ask (c.set name value) (note (.set name value))
  unset name := ask (c.unset name) (note (.unset name))
  report event := fun w => ((), { w with state := ((c.report event).run w.state).2 })

section

variable (c : Context (StateM σ)) (note : Call → σ → ι)

@[simp] theorem recorded_evalCondition (expression : String) :
    (c.recorded note : Context (StateM (World σ τ ι))).evalCondition expression
      = ask (c.evalCondition expression) (note (.condition expression)) := rfl

@[simp] theorem recorded_evalText (expression : String) :
    (c.recorded note : Context (StateM (World σ τ ι))).evalText expression
      = ask (c.evalText expression) (note (.text expression)) := rfl

@[simp] theorem recorded_get (name : String) :
    (c.recorded note : Context (StateM (World σ τ ι))).get name
      = ask (c.get name) (note (.get name)) := rfl

@[simp] theorem recorded_set (name value : String) :
    (c.recorded note : Context (StateM (World σ τ ι))).set name value
      = ask (c.set name value) (note (.set name value)) := rfl

@[simp] theorem recorded_unset (name : String) :
    (c.recorded note : Context (StateM (World σ τ ι))).unset name
      = ask (c.unset name) (note (.unset name)) := rfl

@[simp] theorem run_report (event : Event) (w : World σ τ ι) :
    StateT.run ((c.recorded note : Context (StateM (World σ τ ι))).report event) w
      = ((), { w with state := ((c.report event).run w.state).2 }) := rfl

end

/-- The loader of a world. -/
def Loader.supplied (load : Loader (StateM τ)) : Loader (StateM (World σ τ ι)) := fun path =>
  ExceptT.mk fun w =>
    let (result, supply) := outcome (load path) w.supply
    (result, { w with supply })

/-- A transform that notes its calls, by `outer` as long as its name is not bound and by `inner` then. -/
def Context.transformNoting (c : Context (StateM σ)) (outer inner : Call → σ → ι)
    (name expression body : String) : Action (StateM (World σ τ ι)) String := do
  let former ← (c.recorded outer).get name
  (c.recorded outer).set name body
  let text ← ensuring ((c.recorded inner).evalText expression) ((c.recorded inner).rebind name former)
  ((c.recorded inner).report (.transformed name body.length text.length) : StateM (World σ τ ι) Unit)
  return text

theorem recorded_transform (c : Context (StateM σ)) (note : Call → σ → ι) :
    (c.recorded note : Context (StateM (World σ τ ι))).valuation.transform
      = c.transformNoting note note := rfl

@[simp] theorem outcome_ask (x : Action (StateM σ) α) (note : σ → ι) (w : World σ τ ι) :
    outcome (ask x note) w = ((outcome x w.state).1,
      ⟨(outcome x w.state).2, w.supply, w.log ++ [note w.state]⟩) := rfl

@[simp] theorem outcome_supplied (load : Loader (StateM τ)) (path : String) (w : World σ τ ι) :
    outcome (load.supplied path) w = ((outcome (load path) w.supply).1,
      ⟨w.state, (outcome (load path) w.supply).2, w.log⟩) := rfl

/-- From every world, the stack of frames and the recursion give the same output or the same error, make
the same calls in the same states and the same order, and leave the context and the loader in the same
state. -/
theorem outcome_generate_eq_evaluate (c : Context (StateM σ)) (loader : Option (Loader (StateM τ)))
    (limit : Nat) (blocks : List Block) (w : World σ τ (Call × σ)) :
    outcome (generate (c.recorded Prod.mk) (loader.map Loader.supplied) limit blocks) w
      = outcome (evaluate (c.recorded Prod.mk).valuation (loader.map Loader.supplied) limit 0 []
          blocks) w := by
  rw [generate_eq]

end

/-! ### Renders in step -/

section

variable {ω ω' α β : Type}

/-- From related worlds, `x` and `y` have equal results and lead to related worlds. -/
def InStep (R : ω → ω' → Prop) (x : Action (StateM ω) α) (y : Action (StateM ω') α) : Prop :=
  ∀ w w', R w w' → (outcome x w).1 = (outcome y w').1 ∧ R (outcome x w).2 (outcome y w').2

namespace InStep

variable {R : ω → ω' → Prop}

/-- Renders in step are renders side by side. -/
theorem of_acts {x : Action (StateM ω) α} {y : Action (StateM ω') α} (h : (Coupling.states R).Acts x y) :
    InStep R x y := h

theorem pure (a : α) : InStep R (pure a) (pure a) := fun _ _ h => ⟨rfl, h⟩

theorem throw (e : Error) :
    InStep R (throw e : Action (StateM ω) α) (throw e : Action (StateM ω') α) := fun _ _ h => ⟨rfl, h⟩

theorem bind {x : Action (StateM ω) α} {y : Action (StateM ω') α} {f : α → Action (StateM ω) β}
    {g : α → Action (StateM ω') β} (hx : InStep R x y) (hf : ∀ a, InStep R (f a) (g a)) :
    InStep R (x >>= f) (y >>= g) :=
  of_acts (Coupling.Acts.bind (C := .states R) hx hf)

theorem liftExcept (r : Except Error α) :
    InStep R (liftM r : Action (StateM ω) α) (liftM r : Action (StateM ω') α) := of_acts (.liftExcept r)

section

variable {report : Event → StateM ω Unit} {report' : Event → StateM ω' Unit}
  (hr : ∀ event, InStep R (liftM (report event)) (liftM (report' event)))

include hr

theorem related_report (event : Event) :
    (Coupling.states R).Related (report event) (report' event) := fun w w' h => ⟨rfl, (hr event w w' h).2⟩

theorem parseReported (limit : Nat) (text : String) :
    InStep R (Render.parseReported report limit text) (Render.parseReported report' limit text) :=
  of_acts (.parseReported (related_report hr) limit text)

/-- Reports that only touch what the relation does not see keep includes in step. -/
theorem includedBlocks
    {loader : Option (Loader (StateM ω))} {loader' : Option (Loader (StateM ω'))}
    (hl : Option.Rel (fun load load' => ∀ path, InStep R (load path) (load' path)) loader loader')
    (limit : Nat) (path : String) (depth : Nat) (chain : List String) :
    InStep R (Render.includedBlocks report loader limit path depth chain)
      (Render.includedBlocks report' loader' limit path depth chain) :=
  of_acts (Coupling.Acts.includedBlocks (C := .states R) (related_report hr) hl limit path depth chain)

end

/-- Valuations whose conditions, transforms and includes are in step give renders in step. -/
theorem evaluate {v : Valuation (StateM ω)} {v' : Valuation (StateM ω')}
    {loader : Option (Loader (StateM ω))} {loader' : Option (Loader (StateM ω'))} {limit : Nat}
    (hcondition : ∀ expression, InStep R (v.condition expression) (v'.condition expression))
    (htransform : ∀ name expression body,
      InStep R (v.transform name expression body) (v'.transform name expression body))
    (hinclude : ∀ path depth chain, InStep R (Render.includedBlocks v.report loader limit path depth chain)
      (Render.includedBlocks v'.report loader' limit path depth chain))
    (depth : Nat) (chain : List String) (blocks : List Block) :
    InStep R (evaluate v loader limit depth chain blocks)
      (evaluate v' loader' limit depth chain blocks) :=
  of_acts (Coupling.Acts.evaluate (C := .states R) hcondition htransform hinclude depth chain blocks)

end InStep

end

end Stencil.Render
