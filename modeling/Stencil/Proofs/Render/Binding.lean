import Mathlib.Logic.Function.Basic
import Stencil.Expr.Engine
import Stencil.Proofs.Render.Recording

/-!
# Contexts as maps

What a render may rely on in its context: bindings that act like a map, and expressions whose values hang
on the bindings only. Main statements: the context over any engine keeps its bindings like a map, and in
the context over the engine of expressions values hang on the bindings only, although it remembers what it
has prepared.
-/
namespace Stencil.Render

/-- What names are bound to. -/
abbrev Scope := String → Option String

section

variable {σ τ : Type}

/-- The context keeps what `view` shows like a map: only `set` and `unset` change it, and they do not
fail. Whatever else is in the state is free. -/
structure Context.Binds (c : Context (StateM σ)) (view : σ → Scope) : Prop where
  get (name : String) (s : σ) :
    ∃ s', outcome (c.get name) s = (.ok (view s name), s') ∧ view s' = view s
  set (name value : String) (s : σ) :
    ∃ s', outcome (c.set name value) s = (.ok (), s') ∧ view s' = Function.update (view s) name (some value)
  unset (name : String) (s : σ) :
    ∃ s', outcome (c.unset name) s = (.ok (), s') ∧ view s' = Function.update (view s) name none
  condition (expression : String) (s : σ) : view (outcome (c.evalCondition expression) s).2 = view s
  text (expression : String) (s : σ) : view (outcome (c.evalText expression) s).2 = view s
  report (event : Event) (s : σ) : view ((c.report event).run s).2 = view s

/-- Expressions are worth the same wherever the bindings are the same. -/
structure Context.Determined (c : Context (StateM σ)) (view : σ → Scope) : Prop where
  condition (expression : String) {s s' : σ} : view s = view s' →
    (outcome (c.evalCondition expression) s).1 = (outcome (c.evalCondition expression) s').1
  text (expression : String) {s s' : σ} : view s = view s' →
    (outcome (c.evalText expression) s).1 = (outcome (c.evalText expression) s').1

/-- The loader finds the same whenever it is asked. -/
def Loader.Steady (load : Loader (StateM τ)) : Prop :=
  ∀ path t t', (outcome (load path) t).1 = (outcome (load path) t').1

theorem Library.loader_steady (library : Library) : (library.loader : Loader (StateM τ)).Steady := by
  intro path t t'
  unfold Library.loader
  cases library.lookup path <;> rfl

end

end Stencil.Render

namespace Stencil.Expr

open Render (Action Context outcome outcome_bind)

/-- Evaluating changes nothing but what is prepared. -/
theorem Engine.outcome_evaluateHere (e : Engine) (s : String) (memory : e.Memory) :
    outcome (e.evaluateHere (fun _ => pure ()) s) memory
      = (e.evaluate memory.bindings s, { memory with prepared := (e.prepare memory.prepared s).2 }) := by
  have hget : outcome (getThe e.Memory : Action (StateM e.Memory) e.Memory) memory
      = (.ok memory, memory) := rfl
  have hset (memory' : e.Memory) : outcome (set memory' : Action (StateM e.Memory) PUnit) memory
      = (.ok ⟨⟩, memory') := rfl
  simp only [Engine.evaluateHere, outcome_bind, hget, hset, Engine.evaluate, ← e.prepare_fst memory.prepared s]
  cases e.finish memory.bindings s (e.prepare memory.prepared s).1 with
  | error error => rfl
  | ok v => rfl

/-- What names are bound to in a memory. -/
def Engine.Memory.scope {e : Engine} (memory : e.Memory) : Render.Scope := memory.bindings.get?

theorem Bindings.get?_set (b : Bindings) (name value : String) :
    (b.set name value).get? = Function.update b.get? name (some value) := by
  funext other
  by_cases h : other = name
  · subst h
    rw [Bindings.get?_set_self, Function.update_self]
  · rw [Bindings.get?_set_of_ne b value h, Function.update_of_ne h]

theorem Bindings.get?_unset (b : Bindings) (name : String) :
    (b.unset name).get? = Function.update b.get? name none := by
  funext other
  by_cases h : other = name
  · subst h
    rw [Bindings.get?_unset_self, Function.update_self]
  · rw [Bindings.get?_unset_of_ne b h, Function.update_of_ne h]

theorem Engine.outcome_evalCondition (e : Engine) (s : String) (memory : e.Memory) :
    outcome ((e.context fun _ => pure ()).evalCondition s) memory
      = (e.condition memory.bindings s, { memory with prepared := (e.prepare memory.prepared s).2 }) := by
  simp only [Engine.context, outcome_bind, e.outcome_evaluateHere, Engine.condition]
  cases e.evaluate memory.bindings s with
  | error error => rfl
  | ok v => rfl

theorem Engine.outcome_evalText (e : Engine) (s : String) (memory : e.Memory) :
    outcome ((e.context fun _ => pure ()).evalText s) memory
      = (e.textOf memory.bindings s, { memory with prepared := (e.prepare memory.prepared s).2 }) := by
  simp only [Engine.context, outcome_bind, e.outcome_evaluateHere, Engine.textOf]
  cases e.evaluate memory.bindings s with
  | error error => rfl
  | ok v => rfl

/-- The context over an engine keeps its bindings like a map. -/
theorem Engine.context_binds (e : Engine) :
    (e.context fun _ => pure () : Context (StateM e.Memory)).Binds Engine.Memory.scope where
  get name memory := ⟨memory, rfl, rfl⟩
  set name value memory :=
    ⟨{ memory with bindings := memory.bindings.set name value }, rfl,
      memory.bindings.get?_set name value⟩
  unset name memory :=
    ⟨{ memory with bindings := memory.bindings.unset name }, rfl, memory.bindings.get?_unset name⟩
  condition s memory := by rw [e.outcome_evalCondition]; rfl
  text s memory := by rw [e.outcome_evalText]; rfl
  report event memory := rfl

/-- The engine of expressions looks names up and nothing else. -/
theorem engine_evaluate_congr {b b' : Bindings} (h : b.get? = b'.get?) (s : String) :
    engine.evaluate b s = engine.evaluate b' s := by
  have hrun (program : engine.Program) : engine.run program b = engine.run program b' := by
    have hscope : scopeOf b = scopeOf b' := by
      funext name
      simp only [scopeOf, h]
    simp only [engine, h, hscope]
  unfold Engine.evaluate Engine.finish
  simp only [hrun]

theorem engine_context_determined :
    (engine.context fun _ => pure () : Context (StateM engine.Memory)).Determined Engine.Memory.scope where
  condition s memory memory' h := by
    simp only [Engine.outcome_evalCondition, Engine.condition, engine_evaluate_congr h]
  text s memory memory' h := by
    simp only [Engine.outcome_evalText, Engine.textOf, engine_evaluate_congr h]

end Stencil.Expr
