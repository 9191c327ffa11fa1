import Stencil.Proofs.Render.Inlining
import Stencil.Proofs.Render.Unchecked

/-!
# Groups stand for their blocks

A group takes a level of depth and adds nothing else, so its blocks can stand in its place. Where they do, all
that was below the group is one level higher, templates that are included there too, and a template is
included the same at each level. Main statement: unless a render is too deep, it has the same result, makes
the same calls, and leaves the same state once all groups have given way to their blocks.
-/
namespace Stencil

/-! ### Templates without groups -/

namespace Template.Block

mutual
/-- A block without groups, or what stands in the place of a group. -/
def flat : Block → List Block
  | directive (.group _) children => flatAll children
  | directive kind children => [directive kind (flatAll children)]
  | choice condition children otherwise => [choice condition (flatAll children) (flatAll otherwise)]
  | text content => [text content]
  | foreign value => [foreign value]

/-- A sequence where each group, at any depth and in any branch, has given way to its blocks. -/
def flatAll : List Block → List Block
  | [] => []
  | b :: bs => flat b ++ flatAll bs
end

theorem flat_directive {kind : Directive} (h : ∀ header, kind ≠ .group header) (children : List Block) :
    flat (directive kind children) = [directive kind (flatAll children)] := by
  cases kind with
  | group header => exact absurd rfl (h header)
  | _ => rfl

end Template.Block

namespace Render

open Template (Block Directive)
open Template.Block (flat flatAll flat_directive)

theorem evaluate_append {m : Type → Type} [Monad m] [LawfulMonad m] (v : Valuation m)
    (loader : Option (Loader m)) (limit depth : Nat) (chain : List String) (blocks blocks' : List Block) :
    evaluate v loader limit depth chain (blocks ++ blocks') = (do
      let first ← evaluate v loader limit depth chain blocks
      let others ← evaluate v loader limit depth chain blocks'
      return first ++ others) := by
  induction blocks with
  | nil => simp only [List.nil_append, evaluate, pure_bind, String.empty_append, bind_pure]
  | cons b bs ih =>
    simp only [List.cons_append, evaluate, ih, bind_assoc, pure_bind, String.append_assoc]

theorem evaluate_singleton {m : Type → Type} [Monad m] [LawfulMonad m] (v : Valuation m)
    (loader : Option (Loader m)) (limit depth : Nat) (chain : List String) (b : Block) :
    evaluate v loader limit depth chain [b] = evaluateBlock v loader limit depth chain b := by
  simp only [evaluate, pure_bind, String.append_empty, bind_pure]

/-! ### Blocks at a lower depth -/

section

variable {ω : Type} {c : Context (StateM ω)} (loader : Option (Loader (StateM ω))) {limit : Nat}

theorem isTooDeep (limit : Nat) : IsTooDeep limit (.tooDeep limit "generating output") := rfl

/-- Where there is room at `depth` there is room at a lower depth. -/
theorem room_inStep {α : Type} {x y : Action (StateM ω) α} {depth depth' : Nat} (h : depth' ≤ depth)
    (hxy : InStepUnless (IsTooDeep limit) Eq Eq x y) :
    InStepUnless (IsTooDeep limit) Eq Eq
      (if depth < limit then x else throw (.tooDeep limit "generating output"))
      (if depth' < limit then y else throw (.tooDeep limit "generating output")) := by
  by_cases hd : depth < limit
  · rw [if_pos hd, if_pos (Nat.lt_of_le_of_lt h hd)]
    exact hxy
  · rw [if_neg hd]
    exact .escapes (isTooDeep limit) _

/-- An include brings in the same at each depth, as the depth is only reported. -/
theorem includedBlocks_depth (hq : c.Quiet) (escape : Error → Prop) (path : String) (depth depth' : Nat)
    (chain : List String) :
    InStepUnless escape Eq Eq (includedBlocks c.report loader limit path depth chain)
      (includedBlocks c.report loader limit path depth' chain) := by
  cases loader with
  | none => exact .throw _
  | some load =>
    simp only [includedBlocks]
    split
    · exact .throw _
    · refine InStepUnless.bind (V := Eq) ?_ fun _ _ _ => .refl _
      rintro w _ rfl
      rw [hq.outcome_report, hq.outcome_report]
      exact .inr ⟨.ok rfl, rfl⟩

/-- Blocks render in step with the same blocks at a lower depth until they are too deep. -/
theorem evaluate_above (hq : c.Quiet) {depth depth' : Nat} (h : depth' ≤ depth) (chain : List String)
    (blocks : List Block) :
    InStepUnless (IsTooDeep limit) Eq Eq (evaluate c.valuation loader limit depth chain blocks)
      (evaluate c.valuation loader limit depth' chain blocks) := by
  rw [evaluate_eq_rules, evaluate_eq_rules]
  refine .evaluate (fun d d' => d' ≤ d) Eq ?_ ?_ ?_ ?_ h rfl blocks
  · intro name expression body
    exact .refl _
  · intro d d' hle hd
    omega
  · intro d d' _ _
    exact .inl rfl
  · rintro d d' chain _ b _ rfl
    refine .expand Eq rfl (fun _ => .refl _) b fun path _ _ => ?_
    rw [expandInclude_eq, expandInclude_eq]
    exact (includedBlocks_depth loader hq _ path d d' chain).bind fun blocks _ hblocks =>
      .pure ⟨hblocks, rfl, rfl⟩

/-! ### Blocks without groups -/

mutual
/-- A block renders in step with what it is without groups, at a lower depth or at its own. -/
theorem evaluateBlock_flat (hq : c.Quiet) (b : Block) {depth depth' : Nat} (h : depth' ≤ depth)
    (chain : List String) :
    InStepUnless (IsTooDeep limit) Eq Eq (evaluateBlock c.valuation loader limit depth chain b)
      (evaluate c.valuation loader limit depth' chain (flat b)) := by
  have below : depth' + 1 ≤ depth + 1 := Nat.succ_le_succ h
  cases b with
  | text content =>
    rw [flat, evaluate_singleton, evaluateBlock, evaluateBlock]
    exact .refl _
  | foreign value =>
    rw [flat, evaluate_singleton, evaluateBlock, evaluateBlock]
    exact .refl _
  | choice condition children otherwise =>
    rw [flat, evaluate_singleton, evaluateBlock, evaluateBlock]
    refine room_inStep h ((InStepUnless.refl _).bind fun holds _ hholds => ?_)
    subst hholds
    cases holds with
    | true => exact evaluate_flatAll hq children below chain
    | false => exact evaluate_flatAll hq otherwise below chain
  | directive kind children =>
    have hchildren := evaluate_flatAll hq children below chain
    cases kind with
    | group header =>
      -- The blocks of a group come up to its own level, where there is room if there was below.
      rw [flat, evaluateBlock]
      split
      · exact evaluate_flatAll hq children (Nat.le_succ_of_le h) chain
      · exact .escapes (isTooDeep limit) _
    | guard condition =>
      rw [flat_directive (by simp), evaluate_singleton, evaluateBlock, evaluateBlock]
      refine room_inStep h ((InStepUnless.refl _).bind fun holds _ hholds => ?_)
      subst hholds
      cases holds with
      | true => exact hchildren
      | false => exact .refl _
    | inclusion path =>
      rw [flat_directive (by simp), evaluate_singleton, evaluateBlock, evaluateBlock]
      refine room_inStep h ((includedBlocks_depth loader hq _ path _ _ chain).bind fun included _ hincluded => ?_)
      subst hincluded
      exact evaluate_above loader hq below _ included
    | transform name expression =>
      rw [flat_directive (by simp), evaluate_singleton, evaluateBlock, evaluateBlock]
      refine room_inStep h (hchildren.bind fun body _ hbody => ?_)
      subst hbody
      exact .refl _
    | custom kind =>
      rw [flat_directive (by simp), evaluate_singleton, evaluateBlock, evaluateBlock]
      exact room_inStep h (.refl _)

theorem evaluate_flatAll (hq : c.Quiet) (blocks : List Block) {depth depth' : Nat} (h : depth' ≤ depth)
    (chain : List String) :
    InStepUnless (IsTooDeep limit) Eq Eq (evaluate c.valuation loader limit depth chain blocks)
      (evaluate c.valuation loader limit depth' chain (flatAll blocks)) := by
  cases blocks with
  | nil =>
    simp only [flatAll, evaluate]
    exact .pure rfl
  | cons b bs =>
    rw [flatAll, evaluate, evaluate_append]
    refine (evaluateBlock_flat hq b h chain).bind fun first _ hfirst => ?_
    refine (evaluate_flatAll hq bs h chain).bind fun others _ hothers => ?_
    rw [hfirst, hothers]
    exact .pure rfl
end

end

section

variable {σ τ : Type}

/-- Groups can be eliminated. Let each group of a template, at any depth and in any branch, give way to its
blocks: unless the render of the template is too deep, the render of what it has become has the same result,
makes the same calls in the same states, and ends in the same state. -/
theorem generate_flatAll {c : Context (StateM σ)} (hq : c.Quiet) (loader : Option (Loader (StateM τ)))
    (limit : Nat) (blocks : List Block) (w : World σ τ (Call × σ)) :
    let render (template : List Block) :=
      outcome (generate (c.recorded Prod.mk) (loader.map Loader.supplied) limit template) w
    (render blocks).1 ≠ .error (.tooDeep limit "generating output") →
      render (flatAll blocks) = render blocks := by
  intro render notDeep
  have inStep : InStepUnless (IsTooDeep limit) Eq Eq
      (generate (c.recorded Prod.mk : Context (StateM (World σ τ (Call × σ)))) (loader.map Loader.supplied)
        limit blocks)
      (generate (c.recorded Prod.mk) (loader.map Loader.supplied) limit (flatAll blocks)) := by
    rw [generate_eq, generate_eq]
    exact evaluate_flatAll _ (hq.recorded Prod.mk) blocks (Nat.le_refl 0) []
  obtain ⟨e, rfl, he⟩ | ⟨hresult, hworld⟩ := inStep w w rfl
  · exact absurd he notDeep
  · exact Prod.ext (alike_eq_iff.1 hresult).symm hworld.symm

end

/-- Groups under a group, around the body of a transform, in a branch, and around an include of a template that
has a group itself. -/
theorem noticing_flattened :
    let library : Library := [("part", "!!% remark\n!!% transform y: y\nc\n%!!\n%!!\n")]
    let blocks := [.directive (.group "outer") [.text "a", .directive (.group "") [
        .directive (.transform "x" "x") [.directive (.group "body") [.text "b"]]]],
      .choice "seen" [.directive (.group "then") [.directive (.inclusion "part") []]]
        [.directive (.group "else") []]]
    let blocks' := [.text "a", .directive (.transform "x" "x") [.text "b"],
      .choice "seen" [.directive (.inclusion "part") []] []]
    let w : World (List (String × String)) Unit _ := ⟨[], (), []⟩
    let load : Loader (StateM Unit) := library.loader
    let render (template : List Block) :=
      outcome (generate (noticing.recorded Prod.mk) (some load.supplied) 5 template) w
    noticing.Quiet ∧ (render blocks).1 ≠ .error (.tooDeep 5 "generating output") ∧
      flatAll blocks = blocks' ∧ render blocks' = render blocks := by
  intro library blocks blocks' w load render
  have hq : noticing.Quiet := fun _ _ => rfl
  have hresult : (render blocks).1 = .ok "abc" := by
    simp only [render, w, load, blocks, library]
    cbv
  have notDeep : (render blocks).1 ≠ .error (.tooDeep 5 "generating output") := by
    rw [hresult]
    simp
  have hflat : flatAll blocks = blocks' := rfl
  exact ⟨hq, notDeep, hflat, hflat ▸ generate_flatAll hq (some load) 5 blocks w notDeep⟩

end Render

end Stencil
