import Stencil.Proofs.Render.Including

/-!
# The generator without the search for cycles

Without the search, an include is expanded whatever is being included. Main statements: a block expands and
renders alike with and without the search, up to the cycles that the search finds; and without the search a
render at a greater depth is alike until it is too deep.
-/
namespace Stencil.Render

open Template (Block Directive)

/-! ### The generator without the search -/

section

variable {m : Type → Type} [Monad m]

/-- Expands a block as if no template were being included. The chain grows all the same. -/
def expandUnchecked (context : Context m) (loader : Option (Loader m)) (limit depth : Nat)
    (chain : List String) (b : Block) : Action m (Option Expansion) := do
  let expansion ← expand context loader limit depth [] b
  return expansion.map fun e => { e with chain := chain ++ e.chain }

/-- The rules of a generator that does not search for cycles. -/
def Context.rulesUnchecked (context : Context m) (loader : Option (Loader m)) (limit : Nat) : Rules m where
  expand := expandUnchecked context loader limit
  transform := applyTransform context

/-- The output of a template without a search for cycles. -/
def generateUnchecked (context : Context m) (loader : Option (Loader m)) (limit : Nat)
    (blocks : List Block) : Action m String :=
  (context.rulesUnchecked loader limit).generate limit blocks

end

section

variable {ω : Type}

/-- Up to cycles, blocks expand alike with and without the search. -/
theorem expand_inStep_expandUnchecked (c : Context (StateM ω)) (loader : Option (Loader (StateM ω)))
    (limit depth : Nat) (chain : List String) (b : Block) :
    InStepUnless IsCycle Eq (Option.Rel (Expansion.Agrees Eq)) (expand c loader limit depth chain b)
      (expandUnchecked c loader limit depth chain b) := by
  have hexpand : InStepUnless IsCycle Eq (Option.Rel (Expansion.Agrees fun all some => all = chain ++ some))
      (expand c loader limit depth chain b) (expand c loader limit depth [] b) := by
    refine .expand (fun all some => all = chain ++ some) (List.append_nil chain).symm (fun _ => .refl _)
      b fun path _ _ => ?_
    refine (InStepUnless.expandInclude_of_subset c loader limit depth path (List.nil_subset chain)).mono ?_
    rintro e e' ⟨hblocks, ⟨key, he, he'⟩, htransform⟩
    exact ⟨hblocks, by rw [he, he', List.nil_append], htransform⟩
  rw [← bind_pure (expand c loader limit depth chain b)]
  refine hexpand.bind fun o o' ho => .pure ?_
  cases ho with
  | none => exact .none
  | some h => exact .some ⟨h.1, h.2.1, h.2.2⟩

/-- Up to cycles, blocks render alike with and without the search. -/
theorem evaluate_inStep_unchecked (c : Context (StateM ω)) (loader : Option (Loader (StateM ω)))
    (limit depth : Nat) (chain : List String) (blocks : List Block) :
    InStepUnless IsCycle Eq Eq ((c.rules loader limit).evaluate limit depth chain blocks)
      ((c.rulesUnchecked loader limit).evaluate limit depth chain blocks) := by
  refine .evaluate_of_expand Eq ?_ ?_ depth rfl blocks
  · intro name expression body
    exact .refl _
  · rintro d chain _ b rfl
    exact expand_inStep_expandUnchecked c loader limit d chain b

end

/-! ### Deeper renders -/

/-- Both worlds are in `S`. -/
def Both {ω : Type} (S : ω → Prop) (w w' : ω) : Prop := S w ∧ S w'

/-- What is asked of the context is answered alike in all worlds of `S`, and does not lead out of `S`. -/
structure Context.Settled {ω : Type} (c : Context (StateM ω)) (S : ω → Prop) : Prop where
  condition (expression : String) : InStep (Both S) (c.evalCondition expression) (c.evalCondition expression)
  transform (name expression body : String) : InStep (Both S) (applyTransform c name expression body)
    (applyTransform c name expression body)
  report (event event' : Event) : InStep (Both S) (liftM (c.report event)) (liftM (c.report event'))

/-- The error of a render that is too deep. -/
def IsTooDeep (limit : Nat) (e : Error) : Prop := e = .tooDeep limit "generating output"

section

variable {ω : Type} {c : Context (StateM ω)} {S : ω → Prop} (hc : c.Settled S)
  (answers : Option (String → Except Error Source)) {limit : Nat}

include hc

theorem fetch_settled (answers : String → Except Error Source) (limit : Nat) (path : String) :
    InStep (Both S) (fetch c.report (Loader.ofAnswers answers) limit path)
      (fetch c.report (Loader.ofAnswers answers) limit path) := by
  have hload : InStep (Both S) (Loader.ofAnswers answers path) (Loader.ofAnswers answers path) :=
    fun _ _ hw => ⟨rfl, hw⟩
  refine hload.bind fun source => InStep.bind ?_ fun _ => InStep.bind ?_ fun blocks =>
    (hc.report _ _).bind fun _ => .pure _
  · unfold reportFound
    cases source.location with
    | none => exact .pure ()
    | some location => exact hc.report _ _
  · cases Template.parseWithin limit source.text with
    | ok blocks => exact .pure blocks
    | error e => exact .throw e

/-- Without the search, a block expands to the same blocks at each depth. -/
theorem expandUnchecked_settled (escape : Error → Prop) (limit d d' : Nat) (chain chain' : List String)
    (b : Block) :
    InStepUnless escape (Both S) (Option.Rel (Expansion.Agrees fun _ _ => True))
      (expandUnchecked c (answers.map Loader.ofAnswers) limit d chain b)
      (expandUnchecked c (answers.map Loader.ofAnswers) limit d' chain' b) := by
  have hinclude (path : String) : InStepUnless escape (Both S) (Expansion.Agrees Eq)
      (expandInclude c (answers.map Loader.ofAnswers) limit path d [])
      (expandInclude c (answers.map Loader.ofAnswers) limit path d' []) := by
    cases answers with
    | none => exact .throw _
    | some answers =>
      rw [Option.map_some, expandInclude_of_not_mem c limit path d _ List.not_mem_nil,
        expandInclude_of_not_mem c limit path d' _ List.not_mem_nil]
      refine (InStepUnless.of_inStep (hc.report _ _)).bind fun _ _ _ =>
        (InStepUnless.of_inStep (fetch_settled hc answers limit path)).bind fun blocks _ hb => .pure ?_
      exact ⟨hb, rfl, rfl⟩
  refine (InStepUnless.expand Eq rfl (fun expression => .of_inStep (hc.condition expression)) b
    fun path _ _ => hinclude path).bind fun o o' ho => .pure ?_
  cases ho with
  | none => exact .none
  | some h => exact .some ⟨h.1, trivial, h.2.2⟩

/-- Without the search, deeper blocks render alike until they are too deep. -/
theorem evaluate_deeper {d d' : Nat} (hle : d' ≤ d) (chain chain' : List String) (blocks : List Block) :
    InStepUnless (IsTooDeep limit) (Both S) Eq
      ((c.rulesUnchecked (answers.map Loader.ofAnswers) limit).evaluate limit d chain blocks)
      ((c.rulesUnchecked (answers.map Loader.ofAnswers) limit).evaluate limit d' chain' blocks) := by
  refine .evaluate (fun d d' => d' ≤ d) (fun _ _ => True) ?_ ?_ ?_ ?_ hle trivial blocks
  · intro name expression body
    exact .of_inStep (hc.transform name expression body)
  · intro d d' hle hd
    omega
  · intro d d' _ _
    exact .inl rfl
  · intro d d' chain chain' b _ _
    exact expandUnchecked_settled hc answers _ limit d d' chain chain' b

end

end Stencil.Render
