import Stencil.Render.Generator

/-!
# Generators with rules of their own

The stack of frames says when a block is expanded and where its output goes. What a block expands to, and
what becomes of the output of an expansion, are rules, and generators that share the stack may differ in
them. Main statements: for any rules the stack computes a recursion over the blocks, and with the rules of
a context it is the generator.
-/
namespace Stencil.Render

open Template (Block Directive)

/-- What holds at each depth that it holds below holds at every depth. -/
theorem depthInduction {P : Nat → Prop} (limit : Nat)
    (step : ∀ depth, (depth < limit → P (depth + 1)) → P depth) (depth : Nat) : P depth := by
  induction h : limit - depth generalizing depth with
  | zero => exact step depth fun hd => by omega
  | succ room ih => exact step depth fun hd => ih (depth + 1) (by omega)

/-- What a generator makes of a block inside `depth - 1` directives while the templates of `chain` are
included, and of the output of what the block expands to. -/
structure Rules (m : Type → Type) where
  expand : (depth : Nat) → (chain : List String) → Block → Action m (Option Expansion)
  transform : (name expression body : String) → Action m String

/-- The outcome that leaves the first block of the top frame behind, with `text` as its output. -/
def Stack.advanced {limit : Nat} (s : Stack limit) {b : Block} {blocks : List Block}
    (hb : s.top.blocks = b :: blocks) (text : String) : Outcome s :=
  .more (s.advance blocks text) (s.advance_smaller hb text)

/-- The outcome that opens a frame for the blocks that the first block of the top frame expands to. -/
def Stack.pushed {limit : Nat} (s : Stack limit) {b : Block} {blocks : List Block}
    (hb : s.top.blocks = b :: blocks) (hd : s.top.depth < limit) (children : List Block)
    (chain : List String) (transform : Option (String × String)) : Outcome s :=
  .more (s.push blocks hd children chain transform) (s.push_smaller hb hd children chain transform)

namespace Rules

section

variable {m : Type → Type} [Monad m] (r : Rules m) {limit : Nat}

/-- What becomes of the output of an expansion. -/
def finish : Option (String × String) → String → Action m String
  | none, output => pure output
  | some (name, expression), output => r.transform name expression output

/-- Handles the next block of the top frame, or closes the frame if it has none left. -/
def step (s : Stack limit) : Action m (Outcome s) :=
  match hb : s.top.blocks with
  | [] => do
    let text ← r.finish s.top.transform s.top.output
    match hr : s.rest with
    | [] => return .done text
    | f :: rest => return .more (s.pop f rest hr text) (s.pop_smaller f rest hr text)
  | .text content :: _ => return s.advanced hb content
  | .foreign value :: _ => throw (.unsupported value.kind (some "unknown block type"))
  | b :: _ =>
    if hd : s.top.depth < limit then do
      match ← r.expand (s.top.depth + 1) s.top.chain b with
      | none => return s.advanced hb ""
      | some e => return s.pushed hb hd e.blocks e.chain e.transform
    else throw (.tooDeep limit "generating output")

/-- Steps until the output is whole. -/
def run (s : Stack limit) : Action m String := do
  match ← r.step s with
  | .done output => return output
  | .more s' _ => run s'
  termination_by (Work.order limit).wf.wrap s.work
  decreasing_by assumption

/-- The output of a template. -/
def generate (limit : Nat) (blocks : List Block) : Action m String := r.run (Stack.start limit blocks)

mutual
/-- The output of blocks that `depth` directives enclose, while the templates of `chain` are included. -/
def evaluate (limit depth : Nat) (chain : List String) : List Block → Action m String
  | [] => return ""
  | b :: bs => do
    let first ← evaluateBlock limit depth chain b
    let others ← evaluate limit depth chain bs
    return first ++ others
  termination_by bs => (limit - depth, bs.length + 1)

def evaluateBlock (limit depth : Nat) (chain : List String) : Block → Action m String
  | .text content => return content
  | .foreign value => throw (.unsupported value.kind (some "unknown block type"))
  | b =>
    if depth < limit then do
      match ← r.expand (depth + 1) chain b with
      | none => return ""
      | some e =>
        let text ← evaluate limit (depth + 1) e.chain e.blocks
        r.finish e.transform text
    else throw (.tooDeep limit "generating output")
  termination_by (limit - depth, 0)
end

/-- A block that is neither a text nor without meaning is expanded, if there is room below it. -/
theorem evaluateBlock_eq (limit depth : Nat) (chain : List String) {b : Block}
    (ht : ∀ content, b ≠ .text content) (hf : ∀ value, b ≠ .foreign value) :
    r.evaluateBlock limit depth chain b =
      if depth < limit then do
        match ← r.expand (depth + 1) chain b with
        | none => return ""
        | some e =>
          let text ← r.evaluate limit (depth + 1) e.chain e.blocks
          r.finish e.transform text
      else throw (.tooDeep limit "generating output") := by
  rw [evaluateBlock]
  · exact ht
  · exact hf

/-- The output of a stack whose top frame gets `text` from above. -/
def resume (limit : Nat) : List Frame → String → Action m String
  | [], text => pure text
  | f :: fs, text => do
    let others ← r.evaluate limit f.depth f.chain f.blocks
    let whole ← r.finish f.transform (f.output ++ text ++ others)
    resume limit fs whole

end

section

variable {m : Type → Type} [Monad m] [LawfulMonad m] (r : Rules m) {limit : Nat}

theorem evaluate_singleton (limit depth : Nat) (chain : List String) (b : Block) :
    r.evaluate limit depth chain [b] = r.evaluateBlock limit depth chain b := by
  simp [evaluate]

theorem evaluate_cons (limit depth : Nat) (chain : List String) (b : Block) (bs : List Block) :
    r.evaluate limit depth chain (b :: bs) = (do
      let first ← r.evaluate limit depth chain [b]
      let others ← r.evaluate limit depth chain bs
      return first ++ others) := by
  rw [evaluate_singleton, evaluate]

/-- A step leads to a stack with the same output. -/
theorem step_bind_resume (s : Stack limit) :
    (do
      match ← r.step s with
      | .done output => return output
      | .more s' _ => r.resume limit (s'.top :: s'.rest) "")
      = r.resume limit (s.top :: s.rest) "" := by
  unfold step
  split
  · rename_i hb
    simp only [resume, hb, evaluate, pure_bind, bind_assoc, String.append_empty]
    refine bind_congr fun text => ?_
    split <;> rename_i hr <;> simp [hr, resume, Stack.pop]
  · rename_i content blocks hb
    simp [resume, Stack.advanced, Stack.advance, hb, evaluate, evaluateBlock, String.append_assoc]
  · rename_i kind blocks hb
    simp [resume, hb, evaluate, evaluateBlock]
  · rename_i b blocks ht hf hb
    simp only [resume, hb, evaluate, r.evaluateBlock_eq limit _ _ ht hf, String.append_empty]
    split
    · simp only [bind_assoc]
      refine bind_congr fun expansion => ?_
      cases expansion with
      | none => simp [Stack.advanced, Stack.advance]
      | some e => simp [Stack.pushed, Stack.push, resume, String.append_assoc]
    · simp

theorem run_eq_resume (s : Stack limit) : r.run s = r.resume limit (s.top :: s.rest) "" := by
  induction s using (InvImage.wf Stack.work (Work.order limit).wf).induction with
  | _ s ih =>
    rw [run, ← step_bind_resume]
    refine bind_congr fun outcome => ?_
    cases outcome with
    | done output => rfl
    | more s' smaller => exact ih s' smaller

/-- The stack computes the recursion. -/
theorem generate_eq_evaluate (blocks : List Block) :
    r.generate limit blocks = r.evaluate limit 0 [] blocks := by
  rw [generate, run_eq_resume]
  simp [Stack.start, resume, finish]

end

end Rules

/-! ### The generator -/

section

variable {m : Type → Type} [Monad m]

/-- The rules of the generator. -/
def Context.rules (context : Context m) (loader : Option (Loader m)) (limit : Nat) : Rules m where
  expand := expand context loader limit
  transform := applyTransform context

variable [LawfulMonad m] (context : Context m) (loader : Option (Loader m)) {limit : Nat}

theorem rules_step (s : Stack limit) : (context.rules loader limit).step s = step context loader s := by
  obtain ⟨⟨blocks, depth, chain, transform, output⟩, rest, nested, top_le⟩ := s
  cases blocks with
  | nil =>
    cases transform with
    | none => cases rest <;> simp [Rules.step, step, Rules.finish]
    | some p => rfl
  | cons b blocks => cases b <;> rfl

theorem rules_run (s : Stack limit) : (context.rules loader limit).run s = run context loader s := by
  induction s using (InvImage.wf Stack.work (Work.order limit).wf).induction with
  | _ s ih =>
    rw [run, Rules.run, rules_step]
    refine bind_congr fun outcome => ?_
    cases outcome with
    | done output => rfl
    | more s' smaller => exact ih s' smaller

/-- With the rules of a context, the recursion is the generator. -/
theorem generate_eq_evaluate_rules (blocks : List Block) :
    generate context loader limit blocks
      = (context.rules loader limit).evaluate limit 0 [] blocks := by
  rw [← Rules.generate_eq_evaluate, Rules.generate, rules_run, generate]

end

end Stencil.Render
