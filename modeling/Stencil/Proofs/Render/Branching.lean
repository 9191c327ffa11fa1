import Stencil.Proofs.Render.Flattening

/-!
# Guards and choices

A guard whose condition does not hold is passed over, and a choice opens a frame for its second branch, also
where that branch is empty. An empty frame has no output and calls nothing. Main statement: once each guard has
become a choice with an empty second branch, a template renders as before, with the same result, the same calls
and the same state in the end.
-/
namespace Stencil

namespace Template.Block

mutual
/-- A block where each guard, at any depth and in any branch, is a choice whose second branch is empty. -/
def withOtherwise : Block → Block
  | directive (.guard condition) children => choice condition (withOtherwiseAll children) []
  | directive kind children => directive kind (withOtherwiseAll children)
  | choice condition children otherwise =>
    choice condition (withOtherwiseAll children) (withOtherwiseAll otherwise)
  | text content => text content
  | foreign value => foreign value

def withOtherwiseAll : List Block → List Block
  | [] => []
  | b :: bs => withOtherwise b :: withOtherwiseAll bs
end

theorem withOtherwise_directive {kind : Directive} (h : ∀ condition, kind ≠ .guard condition)
    (children : List Block) :
    withOtherwise (directive kind children) = directive kind (withOtherwiseAll children) := by
  cases kind with
  | guard condition => exact absurd rfl (h condition)
  | _ => rfl

end Template.Block

namespace Render

open Template (Block Directive)
open Template.Block (withOtherwise withOtherwiseAll withOtherwise_directive)

section

variable {m : Type → Type} [Monad m] (v : Valuation m) (loader : Option (Loader m)) (limit : Nat)

mutual
/-- A block is worth what it is worth without guards, wherever it stands. -/
theorem evaluateBlock_withOtherwise (b : Block) (depth : Nat) (chain : List String) :
    evaluateBlock v loader limit depth chain (withOtherwise b)
      = evaluateBlock v loader limit depth chain b := by
  cases b with
  | text content => rw [withOtherwise]
  | foreign value => rw [withOtherwise]
  | choice condition children otherwise =>
    have hchildren := evaluate_withOtherwiseAll children (depth + 1) chain
    have hotherwise := evaluate_withOtherwiseAll otherwise (depth + 1) chain
    rw [withOtherwise, evaluateBlock, evaluateBlock]
    refine congrArg (fun x => if depth < limit then x else _) (bind_congr fun holds => ?_)
    cases holds with
    | true => exact hchildren
    | false => exact hotherwise
  | directive kind children =>
    have hchildren := evaluate_withOtherwiseAll children (depth + 1) chain
    cases kind with
    | guard condition =>
      rw [withOtherwise, evaluateBlock, evaluateBlock]
      refine congrArg (fun x => if depth < limit then x else _) (bind_congr fun holds => ?_)
      cases holds with
      | true => exact hchildren
      | false =>
        change evaluate v loader limit (depth + 1) chain [] = pure ""
        rw [evaluate]
    | group header =>
      rw [withOtherwise_directive (by simp), evaluateBlock, evaluateBlock]
      simp only [hchildren]
    | inclusion path =>
      rw [withOtherwise_directive (by simp), evaluateBlock, evaluateBlock]
    | transform name expression =>
      rw [withOtherwise_directive (by simp), evaluateBlock, evaluateBlock]
      simp only [hchildren]
    | custom kind =>
      rw [withOtherwise_directive (by simp), evaluateBlock, evaluateBlock]

theorem evaluate_withOtherwiseAll (blocks : List Block) (depth : Nat) (chain : List String) :
    evaluate v loader limit depth chain (withOtherwiseAll blocks)
      = evaluate v loader limit depth chain blocks := by
  cases blocks with
  | nil => rw [withOtherwiseAll]
  | cons b bs =>
    rw [withOtherwiseAll, evaluate, evaluate, evaluateBlock_withOtherwise b, evaluate_withOtherwiseAll bs]
end

end

/-- A guard is a choice with an empty second branch. Let each guard of a template, at any depth and in any
branch, become such a choice: the render has the same result, makes the same calls in the same states, and ends
in the same state. -/
theorem generate_withOtherwiseAll {σ τ : Type} (c : Context (StateM σ)) (loader : Option (Loader (StateM τ)))
    (limit : Nat) (blocks : List Block) (w : World σ τ (Call × σ)) :
    let render (template : List Block) :=
      outcome (generate (c.recorded Prod.mk) (loader.map Loader.supplied) limit template) w
    render (withOtherwiseAll blocks) = render blocks := by
  intro render
  simp only [render, generate_eq, evaluate_withOtherwiseAll]

end Render

end Stencil
