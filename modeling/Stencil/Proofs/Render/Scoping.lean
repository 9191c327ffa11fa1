import Mathlib.Logic.Function.Iterate
import Stencil.Proofs.Render.Binding

/-!
# Bindings in a render

Transforms set a name and give it back, so the bindings change all the time while a render runs. Said
without any change: conditions see the bindings from before the render, and the expression of a transform
sees these with one name bound to what the transform's children rendered to. Main statement: a render
over any context that keeps its bindings like a map makes the calls that this reading has it make, each in
the bindings that it has for them, and leaves the bindings as they were, also if it fails at some call.
-/
namespace Stencil.Render

open Template (Block Directive)

section

variable {σ τ : Type}

/-- Each call is noted with the bindings it is made in. -/
abbrev Context.watched (c : Context (StateM σ)) (view : σ → Scope) :
    Context (StateM (World σ τ (Call × Scope))) :=
  c.recorded fun call s => (call, view s)

/-- The valuation in which names are bound by nesting alone. The context acts, but the notes say what
bindings a call is meant to see: a condition those of `scope`, and the expression of a transform those of
`scope` with the name bound to the body. -/
def Context.lexical (c : Context (StateM σ)) (scope : Scope) :
    Valuation (StateM (World σ τ (Call × Scope))) where
  condition expression := ask (c.evalCondition expression) fun _ => (.condition expression, scope)
  transform name expression body := c.transformNoting (fun call _ => (call, scope))
    (fun call _ => (call, Function.update scope name (some body))) name expression body
  report := (c.recorded fun call _ => (call, scope)).report

/-- What a note says of the bindings if nothing leaked: a condition saw `scope`, and the expression of a
transform saw `scope` with one name bound. -/
def Unleaked (scope : Scope) : Call × Scope → Prop
  | (.condition _, seen) => seen = scope
  | (.text _, seen) => ∃ name body, seen = Function.update scope name (some body)
  | (.get _, _) | (.set _ _, _) | (.unset _, _) => True

@[simp] theorem unleaked_condition (scope seen : Scope) (expression : String) :
    Unleaked scope (.condition expression, seen) ↔ seen = scope := .rfl

@[simp] theorem unleaked_text (scope : Scope) (expression name body : String) :
    Unleaked scope (.text expression, Function.update scope name (some body)) := ⟨name, body, rfl⟩

@[simp] theorem unleaked_get (scope seen : Scope) (name : String) :
    Unleaked scope (.get name, seen) := trivial

@[simp] theorem unleaked_set (scope seen : Scope) (name value : String) :
    Unleaked scope (.set name value, seen) := trivial

/-- One world, in which the bindings are those of `scope` and nothing has leaked. -/
def Kept (view : σ → Scope) (scope : Scope) (w w' : World σ τ (Call × Scope)) : Prop :=
  w = w' ∧ view w.state = scope ∧ ∀ note ∈ w.log, Unleaked scope note

variable {c : Context (StateM σ)} {view : σ → Scope} (h : c.Binds view) (scope : Scope)

include h

/-- Giving a name its former value back succeeds, by one call that tells nothing of the bindings. -/
theorem outcome_rebind (name : String) (former : Option String) (s : σ) :
    ∃ s' call, view s' = Function.update (view s) name former ∧ (∀ seen, Unleaked scope (call, seen)) ∧
      ∀ {ι : Type} (note : Call → σ → ι) (supply : τ) (log : List ι),
        outcome ((c.recorded note).rebind name former) ⟨s, supply, log⟩
          = (.ok (), ⟨s', supply, log ++ [note call s]⟩) := by
  cases former with
  | some value =>
    obtain ⟨s', hs, hv⟩ := h.set name value s
    refine ⟨s', .set name value, hv, fun _ => trivial, fun note supply log => ?_⟩
    simp [Context.rebind, hs]
  | none =>
    obtain ⟨s', hs, hv⟩ := h.unset name s
    refine ⟨s', .unset name, hv, fun _ => trivial, fun note supply log => ?_⟩
    simp [Context.rebind, hs]

/-- A transform has the result of its expression in a state in which its name is bound, and leaves the
bindings as they were. -/
theorem outcome_transformNoting (name expression body : String) (s : σ) :
    ∃ s₁ s₂ s₃ s₄ call, view s₁ = view s ∧ view s₂ = Function.update (view s) name (some body) ∧
      view s₃ = Function.update (view s) name (some body) ∧ view s₄ = view s ∧
      (∀ seen, Unleaked scope (call, seen)) ∧
      ∀ {ι : Type} (outer inner : Call → σ → ι) (supply : τ) (log : List ι),
        outcome (c.transformNoting outer inner name expression body) ⟨s, supply, log⟩
          = ((outcome (c.evalText expression) s₂).1, ⟨s₄, supply, log ++ [outer (.get name) s,
            outer (.set name body) s₁, inner (.text expression) s₂, inner call s₃]⟩) := by
  obtain ⟨s₁, hget, hv₁⟩ := h.get name s
  obtain ⟨s₂, hset, hv₂⟩ := h.set name body s₁
  have hv₃ := h.text expression s₂
  rcases htext : outcome (c.evalText expression) s₂ with ⟨result, s₃⟩
  obtain ⟨s₄, call, hv₄, hcall, hback⟩ := outcome_rebind (τ := τ) h scope name (view s name) s₃
  rw [hv₁] at hv₂
  rw [htext, hv₂] at hv₃
  rw [hv₃, Function.update_idem, Function.update_eq_self] at hv₄
  cases result with
  | error e =>
    refine ⟨s₁, s₂, s₃, s₄, call, hv₁, hv₂, hv₃, hv₄, hcall, fun outer inner supply log => ?_⟩
    simp [Context.transformNoting, outcome_bind, outcome_ensuring, hget, hset, htext, hback]
  | ok text =>
    have hv₅ := h.report (.transformed name body.length text.length) s₄
    refine ⟨s₁, s₂, s₃, _, call, hv₁, hv₂, hv₃, hv₅.trans hv₄, hcall, fun outer inner supply log => ?_⟩
    simp [Context.transformNoting, outcome_bind, outcome_ensuring, hget, hset, htext, hback,
      Except.map]

theorem condition_inStep (expression : String) :
    InStep (Kept (τ := τ) view scope) ((c.watched view).valuation.condition expression)
      ((c.lexical scope).condition expression) := by
  rintro w _ ⟨rfl, rfl, hlog⟩
  have hv := h.condition expression w.state
  refine ⟨rfl, rfl, hv, ?_⟩
  simpa [Context.valuation, or_imp, forall_and] using hlog

theorem transform_inStep (name expression body : String) :
    InStep (Kept (τ := τ) view scope) ((c.watched view).valuation.transform name expression body)
      ((c.lexical scope).transform name expression body) := by
  rintro ⟨s, supply, log⟩ _ ⟨rfl, rfl, hlog⟩
  obtain ⟨s₁, s₂, s₃, s₄, call, hv₁, hv₂, hv₃, hv₄, hcall, hout⟩ :=
    outcome_transformNoting (τ := τ) h (view s) name expression body s
  rw [recorded_transform, Context.lexical, hout, hout]
  simp only [hv₁, hv₂, hv₃]
  refine ⟨trivial, rfl, hv₄, ?_⟩
  simpa [or_imp, forall_and, hcall] using hlog

omit h in
theorem supplied_inStep (loader : Option (Loader (StateM τ))) :
    Option.Rel (fun load load' => ∀ path, InStep (Kept view scope) (load path) (load' path))
      (loader.map Loader.supplied) (loader.map Loader.supplied) := by
  cases loader with
  | none => exact .none
  | some load =>
    refine .some fun path => ?_
    rintro w _ ⟨rfl, hw, hlog⟩
    exact ⟨rfl, rfl, hw, hlog⟩

/-- Watched calls and lexical scoping go in step: nothing leaks. -/
theorem evaluate_inStep (loader : Option (Loader (StateM τ))) (limit depth : Nat) (chain : List String)
    (blocks : List Block) :
    InStep (Kept view scope)
      (evaluate (c.watched view).valuation (loader.map Loader.supplied) limit depth chain blocks)
      (evaluate (c.lexical scope) (loader.map Loader.supplied) limit depth chain blocks) := by
  refine InStep.evaluate (condition_inStep h scope) (transform_inStep h scope)
    (InStep.includedBlocks (fun event => ?_) (supplied_inStep scope loader) limit) depth chain blocks
  rintro w _ ⟨rfl, rfl, hlog⟩
  exact ⟨rfl, rfl, h.report event w.state, hlog⟩

end

/-! ### Renders that follow each other -/

section

variable {σ τ ι : Type}

/-- Two worlds with the bindings of `scope`. -/
def Agreeing (view : σ → Scope) (scope : Scope) (w w' : World σ τ ι) : Prop :=
  view w.state = scope ∧ view w'.state = scope

variable {c : Context (StateM σ)} {view : σ → Scope} (h : c.Binds view) (hd : c.Determined view)
  (scope : Scope) (note : Call → σ → ι)

include h hd

theorem transform_agreeing (name expression body : String) :
    InStep (Agreeing (τ := τ) view scope) ((c.recorded note).valuation.transform name expression body)
      ((c.recorded note).valuation.transform name expression body) := by
  rintro ⟨s, supply, log⟩ ⟨s', supply', log'⟩ ⟨hs, hs'⟩
  obtain ⟨s₁, s₂, s₃, s₄, call, -, hv₂, -, hv₄, -, hout⟩ :=
    outcome_transformNoting (τ := τ) h scope name expression body s
  obtain ⟨s₁', s₂', s₃', s₄', call', -, hv₂', -, hv₄', -, hout'⟩ :=
    outcome_transformNoting (τ := τ) h scope name expression body s'
  simp only at hs hs'
  rw [recorded_transform, hout, hout']
  refine ⟨hd.text expression ?_, hv₄.trans hs, hv₄'.trans hs'⟩
  rw [hv₂, hv₂', hs, hs']

/-- Where expressions hang on the bindings only, renders from the same bindings have the same result. -/
theorem evaluate_agreeing {loader : Option (Loader (StateM τ))} (hl : ∀ load ∈ loader, load.Steady)
    (limit depth : Nat) (chain : List String) (blocks : List Block) :
    InStep (Agreeing view scope)
      (evaluate (c.recorded note).valuation (loader.map Loader.supplied) limit depth chain blocks)
      (evaluate (c.recorded note).valuation (loader.map Loader.supplied) limit depth chain blocks) := by
  refine InStep.evaluate (fun expression => ?_) (transform_agreeing h hd scope note)
    (InStep.includedBlocks (fun event => ?_) ?_ limit) depth chain blocks
  · rintro w w' ⟨hs, hs'⟩
    exact ⟨hd.condition expression (hs.trans hs'.symm), (h.condition expression _).trans hs,
      (h.condition expression _).trans hs'⟩
  · rintro w w' ⟨hs, hs'⟩
    exact ⟨rfl, (h.report event _).trans hs, (h.report event _).trans hs'⟩
  · cases loader with
    | none => exact .none
    | some load =>
      refine .some fun path => ?_
      rintro w w' hw
      exact ⟨hl load rfl path _ _, hw⟩

omit hd in
/-- Bindings never leak. A render makes the calls that lexical scoping has it make and sees at each of them
the bindings that lexical scoping has for it: the condition of a guard or a choice sees those from before
the render, and the expression of a transform sees these with its name bound to the output of its children.
When the render ends, with an output or with an error, the bindings are those from before. So where values
hang on expressions and bindings only, the same render has the same result however often it is repeated. -/
theorem generate_keeps_bindings (loader : Option (Loader (StateM τ))) (limit : Nat)
    (blocks : List Block) (s : σ) (t : τ) :
    let render := generate (c.watched view) (loader.map Loader.supplied) limit blocks
    let lexical := evaluate (c.lexical (view s)) (loader.map Loader.supplied) limit 0 [] blocks
    let start : World σ τ (Call × Scope) := ⟨s, t, []⟩
    outcome render start = outcome lexical start ∧
      (∀ seen ∈ (outcome render start).2.log, Unleaked (view s) seen) ∧
      view (outcome render start).2.state = view s ∧
      (c.Determined view → (∀ load ∈ loader, load.Steady) →
        ∀ n, (outcome render ((fun w => (outcome render w).2)^[n] start)).1
          = (outcome render start).1) := by
  intro render lexical start
  have hrender : render = evaluate (c.watched view).valuation (loader.map Loader.supplied) limit 0 []
      blocks := generate_eq _ _ _
  obtain ⟨hresult, hworld, hview, hlog⟩ :=
    evaluate_inStep h (view s) loader limit 0 [] blocks start start ⟨rfl, rfl, by simp [start]⟩
  rw [← hrender] at hresult hworld hview hlog
  refine ⟨Prod.ext hresult hworld, hlog, hview, fun hd hl n => ?_⟩
  have hagree := evaluate_agreeing h hd (view s) (fun call s => (call, view s)) hl limit 0 [] blocks
  rw [← hrender] at hagree
  have hlater : Agreeing view (view s) start ((fun w => (outcome render w).2)^[n] start) := by
    induction n with
    | zero => exact ⟨rfl, rfl⟩
    | succ n ih =>
      rw [Function.iterate_succ_apply']
      exact ⟨rfl, (hagree _ _ ih).2.2⟩
  exact ((hagree _ _ hlater).1).symm

end

/-- Two transforms of one name, of which the inner one has no value because `missing` is not bound, in a
render with the engine of expressions. -/
theorem shadowing_keeps_bindings :
    let c := (Expr.engine.context fun _ => pure () : Context (StateM Expr.engine.Memory))
    let view := Expr.Engine.Memory.scope
    let library : Library := [("part", "!!% if x == 'a'\nyes\n%!!\n")]
    let loader : Option (Loader (StateM Unit)) := some library.loader
    let blocks := [.directive (.transform "x" "x | upper") [.directive (.inclusion "part") [],
      .directive (.transform "x" "x ~ missing") [.text "b"]]]
    let render := generate (c.watched view) (loader.map Loader.supplied) 10 blocks
    let start : World Expr.engine.Memory Unit (Call × Scope) := ⟨.fresh Expr.engine [("x", "a")], (), []⟩
    c.Binds view ∧ c.Determined view ∧ (∀ load ∈ loader, load.Steady) ∧
      view (outcome render start).2.state = Expr.Bindings.get? [("x", "a")] ∧
      ∀ n, (outcome render ((fun w => (outcome render w).2)^[n] start)).1 = (outcome render start).1 := by
  intro c view library loader blocks render start
  have hb : c.Binds view := Expr.engine.context_binds
  have hd : c.Determined view := Expr.engine_context_determined
  have hl : ∀ load ∈ loader, load.Steady := by
    intro load hload
    obtain rfl : library.loader = load := Option.some.inj hload
    exact library.loader_steady
  obtain ⟨-, -, hview, hrepeat⟩ := generate_keeps_bindings hb loader 10 blocks start.state ()
  exact ⟨hb, hd, hl, hview, hrepeat hd hl⟩

end Stencil.Render
