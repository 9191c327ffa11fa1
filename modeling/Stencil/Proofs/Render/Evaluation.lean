import Stencil.Proofs.Render.Rules

/-!
# Generating by recursion

The output of a template as a recursion over its blocks: texts stand for themselves, a directive is
refused if too many enclose it, and the outputs of neighbours are joined from left to right. What a
condition or a transform is worth is left to a valuation, and each context has one. Main statement: the
stack of frames computes the same as this recursion in every lawful monad, so it has the same result and
the same effects in the same order, whatever calls may fail and whatever they may change.
-/
namespace Stencil.Render

open Template (Block Directive)

/-- What conditions and transforms are worth. -/
structure Valuation (m : Type → Type) where
  condition : String → Action m Bool
  transform : (name expression body : String) → Action m String
  report : Event → m Unit

section

variable {m : Type → Type} [Monad m]

/-- Runs `x`, and then `last` whether or not `x` failed. A failure of `last` comes before one of `x`. -/
def ensuring {α : Type} (x : Action m α) (last : Action m Unit) : Action m α := do
  let result : Except Error α ← ExceptT.lift x.run
  last
  match result with
  | .ok a => return a
  | .error e => throw e

/-- Binds a name to a value, or to nothing. -/
def Context.rebind (context : Context m) (name : String) : Option String → Action m Unit
  | some value => context.set name value
  | none => context.unset name

/-- A transform binds its name while its expression is evaluated. Then the name has its former value
again, or none. -/
def Context.valuation (context : Context m) : Valuation m where
  condition := context.evalCondition
  transform name expression body := do
    let former ← context.get name
    context.set name body
    let text ← ensuring (context.evalText expression) (context.rebind name former)
    context.report (.transformed name body.length text.length)
    return text
  report := context.report

/-- Reports where a template was found, if that is known. -/
def reportFound (report : Event → m Unit) (source : Source) : m Unit :=
  match source.location with
  | some location => report (.loaded location source.text.length)
  | none => pure ()

/-- The blocks of the template at `path`. Without a loader there are none, and a template that is being
included already is not even looked for. -/
def includedBlocks (report : Event → m Unit) (loader : Option (Loader m)) (limit : Nat) (path : String)
    (depth : Nat) (chain : List String) : Action m (List Block) :=
  match loader with
  | none => throw (.unsupported "include" (some s!"no template loader configured for '{path}'"))
  | some load =>
    if includeKey path ∈ chain then throw (.cycle (includeKey path) chain)
    else do
      report (.including path depth)
      let source ← load path
      (reportFound report source : m Unit)
      let blocks ← Template.parseWithin limit source.text
      report (.parsed blocks.length (Block.count blocks))
      return blocks

mutual
/-- The output of blocks that `depth` directives enclose, while the templates of `chain` are included. -/
def evaluate (v : Valuation m) (loader : Option (Loader m)) (limit depth : Nat) (chain : List String) :
    List Block → Action m String
  | [] => return ""
  | b :: bs => do
    let first ← evaluateBlock v loader limit depth chain b
    let others ← evaluate v loader limit depth chain bs
    return first ++ others
  termination_by bs => (limit - depth, bs.length + 1)

def evaluateBlock (v : Valuation m) (loader : Option (Loader m)) (limit depth : Nat)
    (chain : List String) : Block → Action m String
  | .text content => return content
  | .foreign value => throw (.unsupported value.kind (some "unknown block type"))
  | .choice condition children otherwise =>
    if depth < limit then do
      let holds ← v.condition condition
      evaluate v loader limit (depth + 1) chain (if holds then children else otherwise)
    else throw (.tooDeep limit "generating output")
  | .directive kind children =>
    if depth < limit then
      match kind with
      | .group _ => evaluate v loader limit (depth + 1) chain children
      | .guard condition => do
        if ← v.condition condition then evaluate v loader limit (depth + 1) chain children
        else return ""
      | .inclusion path => do
        let blocks ← includedBlocks v.report loader limit path (depth + 1) chain
        evaluate v loader limit (depth + 1) (chain ++ [includeKey path]) blocks
      | .transform name expression => do
        let body ← evaluate v loader limit (depth + 1) chain children
        v.transform name expression body
      | .custom kind => throw (.unsupported kind (some "no generation rule for this directive kind"))
    else throw (.tooDeep limit "generating output")
  termination_by (limit - depth, 0)
end

end

section

variable {m : Type → Type} [Monad m]

theorem evaluateBlock_tooDeep (v : Valuation m) (loader : Option (Loader m)) {limit depth : Nat}
    (chain : List String) (b : Block) (ht : ∀ content, b ≠ .text content)
    (hf : ∀ value, b ≠ .foreign value) (hd : ¬ depth < limit) :
    evaluateBlock v loader limit depth chain b = throw (.tooDeep limit "generating output") := by
  cases b with
  | text content => exact absurd rfl (ht content)
  | foreign value => exact absurd rfl (hf value)
  | choice condition children otherwise => simp [evaluateBlock, hd]
  | directive kind children => cases kind <;> simp [evaluateBlock, hd]

end

/-! ### The stack computes the recursion -/

section

variable {m : Type → Type} [Monad m] [LawfulMonad m]

theorem applyTransform_eq (context : Context m) (name expression body : String) :
    applyTransform context name expression body
      = context.valuation.transform name expression body := by
  simp only [applyTransform, Context.valuation, ensuring, bind_assoc]
  refine bind_congr fun former => bind_congr fun _ => bind_congr fun result => ?_
  cases former <;> cases result <;> simp [restore, Context.rebind]

theorem expandInclude_eq (context : Context m) (loader : Option (Loader m)) (limit : Nat)
    (path : String) (depth : Nat) (chain : List String) :
    expandInclude context loader limit path depth chain = (do
      let blocks ← includedBlocks context.report loader limit path depth chain
      return ⟨blocks, chain ++ [includeKey path], none⟩) := by
  cases loader with
  | none => simp [expandInclude, includedBlocks]
  | some load =>
    by_cases h : includeKey path ∈ chain
    · simp [expandInclude, includedBlocks, h]
    · simp only [expandInclude, includedBlocks, h, parseReported, List.contains_eq_mem, decide_false,
        Bool.false_eq_true, if_false, bind_assoc, pure_bind]
      refine bind_congr fun _ => bind_congr fun source => ?_
      unfold reportFound
      cases source.location <;> simp

variable (context : Context m) (loader : Option (Loader m)) {limit : Nat}

/-- What a directive expands to gives its output, passed through the transform. -/
theorem evaluateBlock_eq_expand {depth : Nat} (chain : List String) (b : Block)
    (hb : ∀ content, b ≠ .text content) (hd : depth < limit) :
    evaluateBlock context.valuation loader limit depth chain b = (do
      match ← expand context loader limit (depth + 1) chain b with
      | none => return ""
      | some e =>
        let text ← evaluate context.valuation loader limit (depth + 1) e.chain e.blocks
        (context.rules loader limit).finish e.transform text) := by
  cases b with
  | text content => exact absurd rfl (hb content)
  | foreign value => simp [evaluateBlock, expand]
  | choice condition children otherwise =>
    simp [evaluateBlock, expand, hd, Context.valuation, Rules.finish]
  | directive kind children =>
    cases kind with
    | group header => simp [evaluateBlock, expand, hd, Rules.finish]
    | guard condition =>
      simp only [evaluateBlock, expand, hd, if_true, bind_assoc, Context.valuation]
      refine bind_congr fun holds => ?_
      cases holds <;> simp [Rules.finish]
    | inclusion path => simp [evaluateBlock, expand, hd, expandInclude_eq, Context.valuation, Rules.finish]
    | transform name expression =>
      simp [evaluateBlock, expand, hd, Rules.finish, Context.rules, applyTransform_eq]
    | custom kind => simp [evaluateBlock, expand, hd]

/-- A block has the output that the rules of the context give it if the blocks one level below do. -/
theorem evaluateBlock_eq_rules {depth : Nat}
    (deeper : depth < limit → ∀ chain blocks, evaluate context.valuation loader limit (depth + 1) chain blocks
      = (context.rules loader limit).evaluate limit (depth + 1) chain blocks)
    (chain : List String) (b : Block) :
    evaluateBlock context.valuation loader limit depth chain b
      = (context.rules loader limit).evaluateBlock limit depth chain b := by
  cases b with
  | text content => rw [evaluateBlock, Rules.evaluateBlock]
  | foreign value => rw [evaluateBlock, Rules.evaluateBlock]
  | choice | directive =>
    rw [Rules.evaluateBlock_eq _ _ _ _ (by simp) (by simp)]
    split
    · rename_i hd
      rw [evaluateBlock_eq_expand context loader chain _ (by simp) hd]
      refine bind_congr fun expansion => ?_
      cases expansion with
      | none => rfl
      | some e => simp only [deeper hd]
    · rename_i hd
      exact evaluateBlock_tooDeep _ loader chain _ (by simp) (by simp) hd

theorem evaluate_eq_rules (depth : Nat) (chain : List String) (blocks : List Block) :
    evaluate context.valuation loader limit depth chain blocks
      = (context.rules loader limit).evaluate limit depth chain blocks := by
  induction depth using depthInduction limit generalizing chain blocks with
  | step depth deeper =>
    induction blocks with
    | nil => rw [evaluate, Rules.evaluate]
    | cons b bs ih => rw [evaluate, Rules.evaluate, ih, evaluateBlock_eq_rules context loader deeper]

/-- The stack of frames computes the recursion: one result, and one sequence of effects. -/
theorem generate_eq (blocks : List Block) :
    generate context loader limit blocks
      = evaluate context.valuation loader limit 0 [] blocks := by
  rw [generate_eq_evaluate_rules, evaluate_eq_rules]

end

end Stencil.Render
