import Stencil.Proofs.Render.Recording
import Stencil.Proofs.Render.Rules

/-!
# The loop over frames

The stack of the generator knows that its frames nest, and each of its steps shows that less is left to
do. Here frames are a plain list and turns are only counted, as in a loop that might go on for ever. A turn
does what the step of a stack does, so the order of stacks bounds the turns, although no turn bounds the
size of what a loader brings in. Main statement: from every state, after finitely many turns, the loop has
ended with the result of the generator, for every context and every loader that answer or fail.
-/
namespace Stencil.Render

open Template (Block Directive)

/-- What a turn leads to: the output of the whole template, or frames, innermost first. -/
inductive Turn where
  | done (output : String)
  | more (top : Frame) (rest : List Frame)

/-- What a step leads to, without what is known of it. -/
def Outcome.turn {limit : Nat} {s : Stack limit} : Outcome s → Turn
  | .done output => .done output
  | .more s' _ => .more s'.top s'.rest

namespace Rules

section

variable {m : Type → Type} [Monad m] (r : Rules m)

/-- Handles the next block of the top frame, or closes the frame if it has none left. -/
def turn (limit : Nat) (top : Frame) (rest : List Frame) : Action m Turn :=
  match top.blocks with
  | [] => do
    let text ← r.finish top.transform top.output
    match rest with
    | [] => return .done text
    | f :: rest => return .more { f with output := f.output ++ text } rest
  | .text content :: blocks =>
    return .more { top with blocks, output := top.output ++ content } rest
  | .foreign value :: _ => throw (.unsupported value.kind (some "unknown block type"))
  | b :: blocks =>
    if top.depth < limit then do
      match ← r.expand (top.depth + 1) top.chain b with
      | none => return .more { top with blocks } rest
      | some e =>
        return .more ⟨e.blocks, top.depth + 1, e.chain, e.transform, ""⟩ ({ top with blocks } :: rest)
    else throw (.tooDeep limit "generating output")

/-- The output of a loop over frames, if it ends in fewer turns than the given number. -/
def loop (limit : Nat) : Nat → Frame → List Frame → Action m (Option String)
  | 0, _, _ => return none
  | n + 1, top, rest => do
    match ← r.turn limit top rest with
    | .done output => return some output
    | .more top rest => loop limit n top rest

end

section

variable {m : Type → Type} [Monad m] [LawfulMonad m] (r : Rules m) {limit : Nat}

/-- A turn over the frames of a stack is a step. -/
theorem turn_eq_step (s : Stack limit) : r.turn limit s.top s.rest = Outcome.turn <$> r.step s := by
  obtain ⟨⟨blocks, depth, chain, transform, output⟩, rest, nested, top_le⟩ := s
  cases blocks with
  | nil =>
    simp only [turn, step, map_bind]
    refine bind_congr fun text => ?_
    cases rest <;> simp [Outcome.turn, Stack.pop]
  | cons b blocks =>
    cases b with
    | text content => simp [turn, step, Outcome.turn, Stack.advanced, Stack.advance]
    | foreign value => simp [turn, step]
    | choice | directive =>
      simp only [turn, step]
      split
      · simp only [map_bind]
        refine bind_congr fun expansion => ?_
        cases expansion <;> simp [Outcome.turn, Stack.advanced, Stack.advance, Stack.pushed, Stack.push]
      · simp

/-- A loop that may take another turn goes on from where the step leads. -/
theorem loop_succ (s : Stack limit) (n : Nat) :
    r.loop limit (n + 1) s.top s.rest = (do
      match ← r.step s with
      | .done output => return some output
      | .more s' _ => r.loop limit n s'.top s'.rest) := by
  simp only [loop, turn_eq_step, bind_map_left]
  refine bind_congr fun outcome => ?_
  cases outcome <;> rfl

end

section

variable {ω : Type} (r : Rules (StateM ω)) {limit : Nat}

/-- From the frames of a stack the loop ends, with what the run of the stack gives. -/
theorem loop_eq_run (s : Stack limit) (w : ω) :
    ∃ n, ∀ k > n, outcome (r.loop limit k s.top s.rest) w = outcome (some <$> r.run s) w := by
  -- Each state of a render may bring in blocks of any number, so only the order of stacks bounds the turns.
  induction s using (InvImage.wf Stack.work (Work.order limit).wf).induction generalizing w with
  | _ s ih =>
    rw [run]
    rcases hstep : outcome (r.step s) w with ⟨result, w'⟩
    cases result with
    | error e =>
      refine ⟨0, fun k hk => ?_⟩
      obtain ⟨k, rfl⟩ := Nat.exists_eq_add_of_lt hk
      simp [loop_succ, outcome_bind, hstep]
    | ok next =>
      cases next with
      | done output =>
        refine ⟨0, fun k hk => ?_⟩
        obtain ⟨k, rfl⟩ := Nat.exists_eq_add_of_lt hk
        simp [loop_succ, outcome_bind, hstep]
      | more s' smaller =>
        obtain ⟨n, hn⟩ := ih s' smaller w'
        refine ⟨n + 1, fun k hk => ?_⟩
        obtain ⟨k, rfl⟩ := Nat.exists_eq_add_of_lt hk
        rw [loop_succ, outcome_bind_of_ok hstep, hn _ (by omega)]
        simp [outcome_bind_of_ok hstep]

end

end Rules

/-- Generating always ends: whatever the context and the loader answer, wherever they fail and whatever they
do to the state, after finitely many turns the loop has ended with the output or the error of the generator,
and in its state. -/
theorem loop_ends {ω : Type} (context : Context (StateM ω)) (loader : Option (Loader (StateM ω)))
    (limit : Nat) (blocks : List Block) (w : ω) :
    ∃ n, ∀ k > n, outcome ((context.rules loader limit).loop limit k ⟨blocks, 0, [], none, ""⟩ []) w
      = outcome (some <$> generate context loader limit blocks) w := by
  rw [generate, ← rules_run]
  exact (context.rules loader limit).loop_eq_run (Stack.start limit blocks) w

end Stencil.Render
