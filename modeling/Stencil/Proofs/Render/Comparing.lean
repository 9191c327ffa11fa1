import Stencil.Proofs.Render.Recording
import Stencil.Proofs.Render.Rules

/-!
# Renders that part at some errors

Two renders may go in step until the first of them fails with an error of a certain kind, which the second
one need not meet. The judgement for this has the rules of renders in step, and one more: a failure of that
kind ends the comparison. Main statement: rules whose expansions and transforms go in step make whole
renders go in step, also where the two renders differ in depth, in their limits or in what is included.
-/
namespace Stencil.Render

open Template (Block Directive)

section

variable {ω ω' α β γ δ : Type}

/-- Related values, or one error. -/
inductive Alike (V : α → β → Prop) : Except Error α → Except Error β → Prop
  | ok {a : α} {b : β} (values : V a b) : Alike V (.ok a) (.ok b)
  | error (e : Error) : Alike V (.error e) (.error e)

theorem Alike.mono {V W : α → β → Prop} {r : Except Error α} {r' : Except Error β} (h : Alike V r r')
    (hVW : ∀ a b, V a b → W a b) : Alike W r r' := by
  cases h with
  | ok values => exact .ok (hVW _ _ values)
  | error e => exact .error e

theorem alike_eq_iff {r r' : Except Error α} : Alike Eq r r' ↔ r = r' := by
  constructor
  · rintro (rfl | e)
    · rfl
    · rfl
  · rintro rfl
    cases r with
    | ok a => exact .ok rfl
    | error e => exact .error e

/-- From related worlds, `x` fails with an error of `escape`, or `x` and `y` fail with one error or have
related values, and lead to related worlds. -/
def InStepUnless (escape : Error → Prop) (R : ω → ω' → Prop) (V : α → β → Prop)
    (x : Action (StateM ω) α) (y : Action (StateM ω') β) : Prop :=
  ∀ w w', R w w' → (∃ e, escape e ∧ (outcome x w).1 = .error e) ∨
    (Alike V (outcome x w).1 (outcome y w').1 ∧ R (outcome x w).2 (outcome y w').2)

namespace InStepUnless

variable {escape : Error → Prop} {R : ω → ω' → Prop}

theorem pure {V : α → β → Prop} {a : α} {b : β} (h : V a b) :
    InStepUnless escape R V (pure a) (pure b) := fun _ _ hR => .inr ⟨.ok h, hR⟩

theorem throw {V : α → β → Prop} (e : Error) : InStepUnless escape R V (throw e) (throw e) :=
  fun _ _ hR => .inr ⟨.error e, hR⟩

theorem escapes {V : α → β → Prop} {e : Error} (h : escape e) (y : Action (StateM ω') β) :
    InStepUnless escape R V (MonadExcept.throw e) y := fun _ _ _ => .inl ⟨e, h, rfl⟩

theorem mono {V W : α → β → Prop} {x : Action (StateM ω) α} {y : Action (StateM ω') β}
    (h : InStepUnless escape R V x y) (hVW : ∀ a b, V a b → W a b) : InStepUnless escape R W x y := by
  intro w w' hR
  obtain he | ⟨hr, hw⟩ := h w w' hR
  · exact .inl he
  · exact .inr ⟨hr.mono hVW, hw⟩

theorem of_inStep {x : Action (StateM ω) α} {y : Action (StateM ω') α} (h : InStep R x y) :
    InStepUnless escape R Eq x y := fun w w' hR =>
  .inr ⟨alike_eq_iff.2 (h w w' hR).1, (h w w' hR).2⟩

theorem refl (x : Action (StateM ω) α) : InStepUnless escape Eq Eq x x :=
  of_inStep (by rintro w _ rfl; exact ⟨rfl, rfl⟩)

theorem bind {V : α → β → Prop} {W : γ → δ → Prop} {x : Action (StateM ω) α}
    {y : Action (StateM ω') β} {f : α → Action (StateM ω) γ} {g : β → Action (StateM ω') δ}
    (hx : InStepUnless escape R V x y) (hf : ∀ a b, V a b → InStepUnless escape R W (f a) (g b)) :
    InStepUnless escape R W (x >>= f) (y >>= g) := by
  intro w w' hR
  rw [outcome_bind, outcome_bind]
  specialize hx w w' hR
  generalize outcome x w = o at hx ⊢
  generalize outcome y w' = o' at hx ⊢
  obtain ⟨r, v⟩ := o
  obtain ⟨r', v'⟩ := o'
  obtain ⟨e, he, rfl⟩ | ⟨hr, hv⟩ := hx
  · exact .inl ⟨e, he, rfl⟩
  · cases hr with
    | ok values => exact hf _ _ values v v' hv
    | error e => exact .inr ⟨.error e, hv⟩

end InStepUnless

/-- From `w` on, `x` and `y` fail with one error or have related values, and they lead to one world. -/
def AlikeFrom (w : ω) (V : α → β → Prop) (x : Action (StateM ω) α) (y : Action (StateM ω) β) : Prop :=
  Alike V (outcome x w).1 (outcome y w).1 ∧ (outcome x w).2 = (outcome y w).2

namespace AlikeFrom

variable {w : ω}

theorem pure {V : α → β → Prop} {a : α} {b : β} (h : V a b) : AlikeFrom w V (pure a) (pure b) := ⟨.ok h, rfl⟩

theorem throw {V : α → β → Prop} (e : Error) : AlikeFrom w V (throw e) (throw e) := ⟨.error e, rfl⟩

theorem refl {V : α → α → Prop} (h : ∀ a, V a a) (x : Action (StateM ω) α) : AlikeFrom w V x x := by
  refine ⟨?_, rfl⟩
  cases (outcome x w).1 with
  | ok a => exact .ok (h a)
  | error e => exact .error e

/-- What follows is compared in the world that the values come with. -/
theorem bind {V : α → β → Prop} {W : γ → δ → Prop} {x : Action (StateM ω) α} {y : Action (StateM ω) β}
    {f : α → Action (StateM ω) γ} {g : β → Action (StateM ω) δ} (hx : AlikeFrom w V x y)
    (hf : ∀ a b w', outcome x w = (.ok a, w') → V a b → AlikeFrom w' W (f a) (g b)) :
    AlikeFrom w W (x >>= f) (y >>= g) := by
  obtain ⟨hresult, hworld⟩ := hx
  rw [AlikeFrom, outcome_bind, outcome_bind]
  rcases hout : outcome x w with ⟨r, w'⟩
  rcases hout' : outcome y w with ⟨r', w''⟩
  rw [hout, hout'] at hresult hworld
  obtain rfl : w' = w'' := hworld
  cases hresult with
  | ok values => exact hf _ _ w' hout values
  | error e => exact ⟨.error e, rfl⟩

theorem outcome_eq {x y : Action (StateM ω) α} (h : AlikeFrom w Eq x y) : outcome x w = outcome y w :=
  Prod.ext (alike_eq_iff.1 h.1) h.2

end AlikeFrom

/-- Expansions to the same blocks, up to the chain. -/
def Expansion.Agrees (chained : List String → List String → Prop) (e e' : Expansion) : Prop :=
  e.blocks = e'.blocks ∧ chained e.chain e'.chain ∧ e.transform = e'.transform

namespace InStepUnless

variable {escape : Error → Prop} {R : ω → ω' → Prop} {r : Rules (StateM ω)} {r' : Rules (StateM ω')}
  {limit limit' : Nat}
  (htransform : ∀ name expression body, InStepUnless escape R Eq
    (r.transform name expression body) (r'.transform name expression body))

include htransform in
theorem finish (transform : Option (String × String)) (output : String) :
    InStepUnless escape R Eq (r.finish transform output) (r'.finish transform output) := by
  cases transform with
  | none => exact pure rfl
  | some p => exact htransform p.1 p.2 output

/-- A block that is expanded goes in step if its expansion does and the blocks of the expansion do. The
second render has room where the first one has, and the first one may fail where it has none. -/
theorem evaluateBlock {W : Expansion → Expansion → Prop} {depth depth' : Nat} {chain chain' : List String}
    {b b' : Block} (ht : ∀ content, b ≠ .text content) (hf : ∀ value, b ≠ .foreign value)
    (ht' : ∀ content, b' ≠ .text content) (hf' : ∀ value, b' ≠ .foreign value)
    (room : depth < limit → depth' < limit')
    (full : limit ≤ depth → escape (.tooDeep limit "generating output") ∨ limit = limit' ∧ limit' ≤ depth')
    (hexpand : depth < limit → InStepUnless escape R (Option.Rel W) (r.expand (depth + 1) chain b)
      (r'.expand (depth' + 1) chain' b'))
    (hbody : depth < limit → ∀ e e', W e e' → InStepUnless escape R Eq
      (r.evaluate limit (depth + 1) e.chain e.blocks >>= r.finish e.transform)
      (r'.evaluate limit' (depth' + 1) e'.chain e'.blocks >>= r'.finish e'.transform)) :
    InStepUnless escape R Eq (r.evaluateBlock limit depth chain b)
      (r'.evaluateBlock limit' depth' chain' b') := by
  rw [r.evaluateBlock_eq limit depth chain ht hf, r'.evaluateBlock_eq limit' depth' chain' ht' hf']
  by_cases hd : depth < limit
  · rw [if_pos hd, if_pos (room hd)]
    refine (hexpand hd).bind fun o o' ho => ?_
    cases ho with
    | none => exact pure rfl
    | some he => exact hbody hd _ _ he
  · rw [if_neg hd]
    obtain he | ⟨rfl, hd'⟩ := full (Nat.le_of_not_lt hd)
    · exact escapes he _
    · rw [if_neg (Nat.not_lt.2 hd')]
      exact throw _

/-- Rules that expand and transform in step render in step. `deep` relates the depths of the two renders
and `chained` what they have included. -/
theorem evaluate (deep : Nat → Nat → Prop) (chained : List String → List String → Prop)
    (htransform : ∀ name expression body, InStepUnless escape R Eq
      (r.transform name expression body) (r'.transform name expression body))
    (room : ∀ d d', deep d d' → d < limit → d' < limit' ∧ deep (d + 1) (d' + 1))
    (full : ∀ d d', deep d d' → limit ≤ d →
      escape (.tooDeep limit "generating output") ∨ limit = limit' ∧ limit' ≤ d')
    (hexpand : ∀ d d' chain chain' b, deep d d' → chained chain chain' →
      InStepUnless escape R (Option.Rel (Expansion.Agrees chained)) (r.expand d chain b)
        (r'.expand d' chain' b))
    {depth depth' : Nat} (hdeep : deep depth depth') {chain chain' : List String}
    (hchained : chained chain chain') (blocks : List Block) :
    InStepUnless escape R Eq (r.evaluate limit depth chain blocks)
      (r'.evaluate limit' depth' chain' blocks) := by
  induction depth using depthInduction limit generalizing depth' chain chain' blocks with
  | step depth deeper =>
    have hblock (b : Block) : InStepUnless escape R Eq (r.evaluateBlock limit depth chain b)
        (r'.evaluateBlock limit' depth' chain' b) := by
      have hbelow (ht : ∀ content, b ≠ .text content) (hf : ∀ value, b ≠ .foreign value) :
          InStepUnless escape R Eq (r.evaluateBlock limit depth chain b)
            (r'.evaluateBlock limit' depth' chain' b) := by
        refine evaluateBlock ht hf ht hf (fun hd => (room _ _ hdeep hd).1) (full _ _ hdeep)
          (fun hd => hexpand _ _ _ _ b (room _ _ hdeep hd).2 hchained) fun hd e e' he => ?_
        obtain ⟨hblocks, hchain, hfinish⟩ := he
        rw [hblocks, hfinish]
        refine (deeper hd (room _ _ hdeep hd).2 hchain e'.blocks).bind fun text _ h => ?_
        rw [h]
        exact finish htransform _ _
      cases b with
      | text content =>
        simp only [Rules.evaluateBlock]
        exact pure rfl
      | foreign value =>
        simp only [Rules.evaluateBlock]
        exact throw _
      | directive kind children => exact hbelow (by simp) (by simp)
      | choice condition children otherwise => exact hbelow (by simp) (by simp)
    induction blocks with
    | nil =>
      simp only [Rules.evaluate]
      exact pure rfl
    | cons b bs ih =>
      simp only [Rules.evaluate]
      refine (hblock b).bind fun first _ h => ih.bind fun others _ h' => ?_
      rw [h, h']
      exact pure rfl

/-- With one limit, rules that expand and transform in step render in step at each depth. -/
theorem evaluate_of_expand {r r' : Rules (StateM ω)} {R : ω → ω → Prop}
    (chained : List String → List String → Prop)
    (htransform : ∀ name expression body, InStepUnless escape R Eq
      (r.transform name expression body) (r'.transform name expression body))
    (hexpand : ∀ d chain chain' b, chained chain chain' →
      InStepUnless escape R (Option.Rel (Expansion.Agrees chained)) (r.expand d chain b)
        (r'.expand d chain' b))
    (depth : Nat) {chain chain' : List String} (hchained : chained chain chain') (blocks : List Block) :
    InStepUnless escape R Eq (r.evaluate limit depth chain blocks) (r'.evaluate limit depth chain' blocks) := by
  refine evaluate Eq chained htransform ?_ ?_ ?_ rfl hchained blocks
  · rintro d _ rfl hd
    exact ⟨hd, rfl⟩
  · rintro d _ rfl hd
    exact .inr ⟨rfl, hd⟩
  · rintro d _ chain chain' b rfl
    exact hexpand d chain chain' b

end InStepUnless

end

end Stencil.Render
