import Stencil.Proofs.Render.Evaluation

/-!
# Renders side by side

Two renders may run in different monads, say over files and over files with a state besides. A relation
between the effects of two monads that sequences inherit from their parts is inherited by whole renders.
Main statement: valuations and loaders whose actions are related give related renders.
-/
namespace Stencil.Render

open Template (Block Directive)

/-- A relation between effects of two monads: equal values are related, and so are sequences whose parts
are. -/
structure Coupling (m n : Type → Type) [Monad m] [Monad n] where
  Related {α : Type} : m α → n α → Prop
  of_pure {α : Type} (a : α) : Related (pure a) (pure a)
  of_bind {α β : Type} {x : m α} {y : n α} {f : α → m β} {g : α → n β} :
    Related x y → (∀ a, Related (f a) (g a)) → Related (x >>= f) (y >>= g)

namespace Coupling

/-- From related states, computations have equal values and lead to related states. -/
def states {ω ω' : Type} (R : ω → ω' → Prop) : Coupling (StateM ω) (StateM ω') where
  Related x y := ∀ w w', R w w' → (x.run w).1 = (y.run w').1 ∧ R (x.run w).2 (y.run w').2
  of_pure _ _ _ h := ⟨rfl, h⟩
  of_bind {_ _ x y f g} hx hf w w' h := by
    obtain ⟨hvalue, hstates⟩ := hx w w' h
    have hrest := hf (x.run w).1 _ _ hstates
    change ((f (x.run w).1).run (x.run w).2).1 = ((g (y.run w').1).run (y.run w').2).1 ∧ _
    rw [← hvalue]
    refine ⟨hrest.1, ?_⟩
    change R ((f (x.run w).1).run (x.run w).2).2 ((g (y.run w').1).run (y.run w').2).2
    rw [← hvalue]
    exact hrest.2

/-- Computations that keep a property of the state. -/
def keeping {ω : Type} (P : ω → Prop) : Coupling (StateM ω) (StateM ω) where
  Related x _ := ∀ w, P w → P (x.run w).2
  of_pure _ _ h := h
  of_bind hx hf w h := hf _ _ (hx w h)

section

variable {m n : Type → Type} [Monad m] [Monad n]

/-- Computations with one more state, which is the same on both sides. -/
def withState (C : Coupling m n) (σ : Type) : Coupling (StateT σ m) (StateT σ n) where
  Related x y := ∀ s, C.Related (x.run s) (y.run s)
  of_pure a s := C.of_pure (a, s)
  of_bind hx hf s := C.of_bind (hx s) fun p => hf p.1 p.2

theorem Related.withState {C : Coupling m n} {α σ : Type} {x : m α} {y : n α} (h : C.Related x y) :
    (C.withState σ).Related (liftM x) (liftM y) := fun s => C.of_bind h fun a => C.of_pure (a, s)

/-- A computation, and the same one in front of a state that it leaves alone. -/
def lifting (m : Type → Type) [Monad m] [LawfulMonad m] (σ : Type) : Coupling m (StateT σ m) where
  Related x y := liftM x = y
  of_pure a := liftM_pure a
  of_bind {_ _ x y f g} hx hf := by
    rw [liftM_bind, hx]
    exact bind_congr hf

variable (C : Coupling m n)

/-- Actions whose effects and failures are related. -/
def Acts {α : Type} (x : Action m α) (y : Action n α) : Prop := C.Related x.run y.run

end

namespace Acts

variable {m n : Type → Type} [Monad m] [Monad n] {C : Coupling m n} {α β : Type}

theorem pure (a : α) : C.Acts (pure a) (pure a) := C.of_pure _

theorem throw (e : Error) : C.Acts (throw e : Action m α) (throw e) := C.of_pure _

theorem bind {x : Action m α} {y : Action n α} {f : α → Action m β} {g : α → Action n β}
    (hx : C.Acts x y) (hf : ∀ a, C.Acts (f a) (g a)) : C.Acts (x >>= f) (y >>= g) := by
  refine C.of_bind hx fun r => ?_
  cases r with
  | ok a => exact hf a
  | error e => exact C.of_pure _

/-- What would follow a failure does not matter. -/
theorem throw_bind [LawfulMonad m] [LawfulMonad n] (e : Error) (f : α → Action m β) (g : α → Action n β) :
    C.Acts (MonadExcept.throw e >>= f) (MonadExcept.throw e >>= g) := by
  have hm : (MonadExcept.throw e >>= f : Action m β) = MonadExcept.throw e := ExceptT.ext (pure_bind _ _)
  have hn : (MonadExcept.throw e >>= g : Action n β) = MonadExcept.throw e := ExceptT.ext (pure_bind _ _)
  rw [hm, hn]
  exact throw e

theorem liftExcept (r : Except Error α) : C.Acts (liftM r : Action m α) (liftM r : Action n α) := by
  cases r with
  | ok a => exact pure a
  | error e => exact throw e

theorem lift [LawfulMonad m] [LawfulMonad n] {x : m α} {y : n α} (h : C.Related x y) :
    C.Acts (liftM x : Action m α) (liftM y : Action n α) := by
  change C.Related (Except.ok <$> x) (Except.ok <$> y)
  rw [map_eq_pure_bind, map_eq_pure_bind]
  exact C.of_bind h fun a => C.of_pure _

/-- Failures may be looked at. -/
theorem attempt [LawfulMonad m] [LawfulMonad n] {x : Action m α} {y : Action n α} (h : C.Acts x y) :
    C.Acts (ExceptT.lift x.run) (ExceptT.lift y.run) := lift h

/-! ### Transforms -/

section

variable [LawfulMonad m] [LawfulMonad n]

theorem ensuring {x : Action m α} {y : Action n α} {last : Action m Unit} {last' : Action n Unit}
    (h : C.Acts x y) (hlast : C.Acts last last') :
    C.Acts (Render.ensuring x last) (Render.ensuring y last') := by
  refine (attempt h).bind fun result => hlast.bind fun _ => ?_
  cases result with
  | ok a => exact pure a
  | error e => exact throw e

/-- Contexts whose calls are related transform alike. -/
theorem transform {c : Context m} {c' : Context n} (hget : ∀ name, C.Acts (c.get name) (c'.get name))
    (hset : ∀ name value, C.Acts (c.set name value) (c'.set name value))
    (hunset : ∀ name, C.Acts (c.unset name) (c'.unset name))
    (htext : ∀ expression, C.Acts (c.evalText expression) (c'.evalText expression))
    (hreport : ∀ event, C.Related (c.report event) (c'.report event)) (name expression body : String) :
    C.Acts (c.valuation.transform name expression body) (c'.valuation.transform name expression body) := by
  have hrebind (former : Option String) : C.Acts (c.rebind name former) (c'.rebind name former) := by
    cases former with
    | none => exact hunset name
    | some value => exact hset name value
  exact (hget name).bind fun former => (hset name body).bind fun _ =>
    ((htext expression).ensuring (hrebind former)).bind fun text => (lift (hreport _)).bind fun _ => pure text

end

/-! ### Includes -/

section

variable [LawfulMonad m] [LawfulMonad n] {report : Event → m Unit} {report' : Event → n Unit}
  (hr : ∀ event, C.Related (report event) (report' event))

include hr

theorem parseReported (limit : Nat) (text : String) :
    C.Acts (Render.parseReported report limit text) (Render.parseReported report' limit text) :=
  (liftExcept _).bind fun blocks => (lift (hr _)).bind fun _ => pure blocks

/-- Related reports and loaders give related includes. -/
theorem includedBlocks {loader : Option (Loader m)} {loader' : Option (Loader n)}
    (hl : Option.Rel (fun load load' => ∀ path, C.Acts (load path) (load' path)) loader loader')
    (limit : Nat) (path : String) (depth : Nat) (chain : List String) :
    C.Acts (Render.includedBlocks report loader limit path depth chain)
      (Render.includedBlocks report' loader' limit path depth chain) := by
  cases hl with
  | none => exact throw _
  | @some load load' hload =>
    simp only [Render.includedBlocks]
    by_cases hc : includeKey path ∈ chain
    · simp only [hc, if_true]
      exact throw _
    · simp only [hc, if_false]
      have hfound (source : Source) : C.Related (reportFound report source) (reportFound report' source) := by
        unfold reportFound
        cases source.location with
        | some location => exact hr _
        | none => exact C.of_pure ()
      exact (lift (hr _)).bind fun _ => (hload path).bind fun source => (lift (hfound source)).bind fun _ =>
        parseReported hr limit source.text

end

/-! ### Blocks -/

section

variable {v : Valuation m} {v' : Valuation n} {loader : Option (Loader m)} {loader' : Option (Loader n)}
  {limit : Nat}
  (hcondition : ∀ expression, C.Acts (v.condition expression) (v'.condition expression))
  (htransform : ∀ name expression body,
    C.Acts (v.transform name expression body) (v'.transform name expression body))
  (hinclude : ∀ path depth chain, C.Acts (Render.includedBlocks v.report loader limit path depth chain)
    (Render.includedBlocks v'.report loader' limit path depth chain))

include hcondition htransform hinclude

/-- A block gives related renders if the blocks one level below do. -/
theorem evaluateBlock {depth : Nat}
    (deeper : depth < limit → ∀ chain blocks, C.Acts
      (Render.evaluate v loader limit (depth + 1) chain blocks)
      (Render.evaluate v' loader' limit (depth + 1) chain blocks))
    (chain : List String) (b : Block) :
    C.Acts (Render.evaluateBlock v loader limit depth chain b)
      (Render.evaluateBlock v' loader' limit depth chain b) := by
  cases b with
  | text content =>
    simp only [Render.evaluateBlock]
    exact pure content
  | foreign value =>
    simp only [Render.evaluateBlock]
    exact throw _
  | choice condition children otherwise =>
    simp only [Render.evaluateBlock]
    split
    · exact (hcondition _).bind fun holds => deeper ‹_› _ _
    · exact throw _
  | directive kind children =>
    by_cases hd : depth < limit
    · cases kind with
      | group header =>
        simp only [Render.evaluateBlock, hd, if_true]
        exact deeper hd _ _
      | guard condition =>
        simp only [Render.evaluateBlock, hd, if_true]
        refine (hcondition _).bind fun holds => ?_
        cases holds with
        | true => exact deeper hd _ _
        | false => exact pure ""
      | inclusion path =>
        simp only [Render.evaluateBlock, hd, if_true]
        exact (hinclude _ _ _).bind fun blocks => deeper hd _ _
      | transform name expression =>
        simp only [Render.evaluateBlock, hd, if_true]
        exact (deeper hd _ _).bind fun body => htransform _ _ _
      | custom kind =>
        simp only [Render.evaluateBlock, hd, if_true]
        exact throw _
    · cases kind <;>
      · simp only [Render.evaluateBlock, hd, if_false]
        exact throw _

/-- Valuations whose conditions, transforms and includes are related give related renders. -/
theorem evaluate (depth : Nat) (chain : List String) (blocks : List Block) :
    C.Acts (Render.evaluate v loader limit depth chain blocks)
      (Render.evaluate v' loader' limit depth chain blocks) := by
  induction depth using depthInduction limit generalizing chain blocks with
  | step depth deeper =>
    induction blocks with
    | nil =>
      simp only [Render.evaluate]
      exact pure ""
    | cons b bs ih =>
      simp only [Render.evaluate]
      exact (evaluateBlock hcondition htransform hinclude deeper chain b).bind
        fun first => ih.bind fun others => pure _

end

/-! ### Expansions -/

section

variable [LawfulMonad m] [LawfulMonad n] {c : Context m} {c' : Context n} {loader : Option (Loader m)}
  {loader' : Option (Loader n)} {limit : Nat}

/-- What a block expands to is related where conditions and includes are. -/
theorem expand (hcondition : ∀ expression, C.Acts (c.evalCondition expression) (c'.evalCondition expression))
    (hinclude : ∀ path depth chain, C.Acts (Render.includedBlocks c.report loader limit path depth chain)
      (Render.includedBlocks c'.report loader' limit path depth chain)) (depth : Nat) (chain : List String) (b : Block) :
    C.Acts (Render.expand c loader limit depth chain b) (Render.expand c' loader' limit depth chain b) := by
  cases b with
  | text => exact pure none
  | foreign => exact throw _
  | choice condition children otherwise => exact (hcondition condition).bind fun holds => pure _
  | directive kind children =>
    cases kind with
    | group | transform => exact pure _
    | guard condition => exact (hcondition condition).bind fun holds => pure _
    | inclusion path =>
      have hexpand : C.Acts (Render.expandInclude c loader limit path depth chain)
          (Render.expandInclude c' loader' limit path depth chain) := by
        rw [expandInclude_eq, expandInclude_eq]
        exact (hinclude path depth chain).bind fun blocks => pure _
      exact hexpand.bind fun e => pure _
    | custom => exact throw _

end

end Acts

end Coupling

end Stencil.Render
