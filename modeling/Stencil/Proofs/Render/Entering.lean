import Stencil.Proofs.Render.Inlining
import Stencil.Proofs.Render.Stepping

/-!
# The sequences that a render enters

A render goes down into a sequence of blocks when it opens a frame for it. A sequence is told by the way that
leads to it, as a template may hold the same blocks twice. Main statements: the place that is kept with a state
of a render is where its next block stands in the template; and what stands in sequences that a render does
not enter has no part in it. With anything else in their place the render has the same result, makes the same
calls, and leaves the same state.
-/
namespace Stencil.Render

open Template (Block Directive)

/-! ### Ways into a template -/

/-- What of a block is entered. -/
inductive Part where
  /-- The blocks directly below it, in a choice those of the first branch. -/
  | body
  /-- The second branch of a choice. -/
  | otherwise
  /-- The blocks that an include brings in. -/
  | included
  deriving DecidableEq, Repr

/-- The way down to a sequence, innermost first: how many blocks are in front of the one that is entered, and
what of it is. -/
abbrev Way := List (Nat × Part)

/-- A place in the sequence at `way`, behind `index` of its blocks. -/
structure Cursor where
  way : Way
  index : Nat

namespace Cursor

def start : Cursor := ⟨[], 0⟩

def next (k : Cursor) : Cursor := ⟨k.way, k.index + 1⟩

def enter (k : Cursor) (part : Part) : Cursor := ⟨(k.index, part) :: k.way, 0⟩

/-- The place behind the block that was entered last. -/
def leave (k : Cursor) : Cursor :=
  match k.way with
  | [] => start
  | (index, _) :: way => ⟨way, index + 1⟩

@[simp] theorem leave_next (k : Cursor) : k.next.leave = k.leave := rfl

@[simp] theorem leave_enter (k : Cursor) (part : Part) : (k.enter part).leave = k.next := rfl

theorem leave_way (k : Cursor) : k.leave.way = k.way.tail := by
  obtain ⟨_ | ⟨_, way⟩, index⟩ := k <;> rfl

end Cursor

/-- What of a block is entered in the state `w`, if anything is. -/
def Context.entered {ω : Type} (c : Context (StateM ω)) (w : ω) : Block → Part
  | .directive (.inclusion _) _ => .included
  | .choice condition _ _ =>
    match (outcome (c.evalCondition condition) w).1 with
    | .ok false => .otherwise
    | _ => .body
  | _ => .body

section

variable {ω : Type} (c : Context (StateM ω)) (loader : Option (Loader (StateM ω))) {limit : Nat}

/-! ### Places of the states -/

/-- Where the next block of the top frame stands after a step from `s` in `w` to `s'`, if before it stands at
`k`. -/
def Stack.cursorAfter (s s' : Stack limit) (w : ω) (k : Cursor) : Cursor :=
  if s.rest.length < s'.rest.length then
    match s.top.blocks with
    | b :: _ => k.enter (c.entered w b)
    | [] => k
  else if s'.rest.length < s.rest.length then k.leave
  else k.next

@[simp] theorem Stack.cursorAfter_advance (s : Stack limit) (blocks : List Block) (text : String) (w : ω)
    (k : Cursor) : s.cursorAfter c (s.advance blocks text) w k = k.next := by
  simp [cursorAfter, advance]

@[simp] theorem Stack.cursorAfter_push {s : Stack limit} {b : Block} {blocks : List Block}
    (next : s.top.blocks = b :: blocks) (room : s.top.depth < limit) (children : List Block)
    (chain : List String) (transform : Option (String × String)) (w : ω) (k : Cursor) :
    s.cursorAfter c (s.push blocks room children chain transform) w k = k.enter (c.entered w b) := by
  simp [cursorAfter, push, next]

@[simp] theorem Stack.cursorAfter_pop {s : Stack limit} {f : Frame} {rest : List Frame}
    (below : s.rest = f :: rest) (text : String) (w : ω) (k : Cursor) :
    s.cursorAfter c (s.pop f rest below text) w k = k.leave := by
  have hlen : ¬ rest.length + 1 < rest.length := by omega
  simp [cursorAfter, pop, below, hlen]

/-- The states that the render of `blocks` from `w₀` gets to, with the place of the next block. -/
inductive Visited (blocks : List Block) (w₀ : ω) : Cursor → Stack limit → ω → Prop
  | start : Visited blocks w₀ .start (Stack.start limit blocks) w₀
  | step {k : Cursor} {s s' : Stack limit} {smaller : s'.Smaller s} {w w' : ω}
      (before : Visited blocks w₀ k s w)
      (steps : outcome (Render.step c loader s) w = (.ok (.more s' smaller), w')) :
      Visited blocks w₀ (s.cursorAfter c s' w k) s' w'

/-- The render of `blocks` from `w₀` opens a frame for the sequence at `way`. -/
def Enters (limit : Nat) (blocks : List Block) (w₀ : ω) (way : Way) : Prop :=
  ∃ (s : Stack limit) (w : ω), Visited c loader blocks w₀ ⟨way, 0⟩ s w

variable {c loader} {blocks : List Block} {w₀ : ω}

namespace Visited

theorem length_way {k : Cursor} {s : Stack limit} {w : ω} (h : Visited c loader blocks w₀ k s w) :
    k.way.length = s.rest.length := by
  induction h with
  | start => rfl
  | step before steps ih =>
    cases Stack.moves_of_step steps with
    | wrote next =>
      rw [Stack.cursorAfter_advance]
      exact ih
    | passed next room nothing =>
      rw [Stack.cursorAfter_advance]
      exact ih
    | opened next room expands =>
      rw [Stack.cursorAfter_push c next]
      simpa [Cursor.enter, Stack.push] using ih
    | closed next below finishes =>
      rw [Stack.cursorAfter_pop c below, Cursor.leave_way, List.length_tail, ih, below]
      rfl

/-- A sequence is entered before a block of it or of what is below it comes next. -/
theorem enters_of_suffix {k : Cursor} {s : Stack limit} {w : ω} (h : Visited c loader blocks w₀ k s w)
    {way : Way} (hway : way <:+ k.way) : Enters c loader limit blocks w₀ way := by
  induction h with
  | start =>
    cases List.suffix_nil.1 hway
    exact ⟨_, _, .start⟩
  | @step k s s' smaller w w' before steps ih =>
    have after := before.step steps
    cases Stack.moves_of_step steps with
    | wrote next =>
      rw [Stack.cursorAfter_advance] at hway
      exact ih hway
    | passed next room nothing =>
      rw [Stack.cursorAfter_advance] at hway
      exact ih hway
    | opened next room expands =>
      rw [Stack.cursorAfter_push c next] at hway after
      obtain rfl | hway := List.suffix_cons_iff.1 hway
      · exact ⟨_, _, after⟩
      · exact ih hway
    | closed next below finishes =>
      rw [Stack.cursorAfter_pop c below, Cursor.leave_way] at hway
      exact ih (hway.trans (List.tail_suffix _))

theorem enters {k : Cursor} {s : Stack limit} {w : ω} (h : Visited c loader blocks w₀ k s w) :
    Enters c loader limit blocks w₀ k.way := h.enters_of_suffix List.suffix_rfl

/-- The first block of a template comes next only in the beginning. -/
theorem eq_start {s : Stack limit} {w : ω} (h : Visited c loader blocks w₀ ⟨[], 0⟩ s w) :
    s = Stack.start limit blocks ∧ w = w₀ := by
  generalize hk : (⟨[], 0⟩ : Cursor) = k at h
  cases h with
  | start => exact ⟨rfl, rfl⟩
  | @step k s s' smaller w w' before steps =>
    have hlen := before.length_way
    cases Stack.moves_of_step steps with
    | wrote next => simp [Cursor.next] at hk
    | passed next room nothing => simp [Cursor.next] at hk
    | opened next room expands =>
      rw [Stack.cursorAfter_push c next] at hk
      simp [Cursor.enter] at hk
    | closed next below finishes =>
      rw [Stack.cursorAfter_pop c below] at hk
      obtain ⟨_ | ⟨p, way⟩, index⟩ := k
      · simp [below] at hlen
      · simp [Cursor.leave] at hk

end Visited

/-- A sequence below the outermost one is entered where its block comes next and expands. -/
theorem Visited.opened {i : Nat} {part : Part} {way : Way} {s : Stack limit} {w : ω}
    (h : Visited c loader blocks w₀ ⟨(i, part) :: way, 0⟩ s w) :
    ∃ (before : Stack limit) (w' : ω) (b : Block) (others : List Block) (room : before.top.depth < limit)
      (e : Expansion), Visited c loader blocks w₀ ⟨way, i⟩ before w' ∧ before.top.blocks = b :: others ∧
      part = c.entered w' b ∧
      outcome (expand c loader limit (before.top.depth + 1) before.top.chain b) w' = (.ok (some e), w) ∧
      s = before.push others room e.blocks e.chain e.transform := by
  generalize hk : (⟨(i, part) :: way, 0⟩ : Cursor) = k at h
  cases h with
  | start => cases hk
  | @step k s s' smaller w' w before steps =>
    cases Stack.moves_of_step steps with
    | wrote next => simp [Cursor.next] at hk
    | passed next room nothing => simp [Cursor.next] at hk
    | opened next room expands =>
      rw [Stack.cursorAfter_push c next] at hk
      cases hk
      exact ⟨_, _, _, _, room, _, before, next, rfl, expands, rfl⟩
    | closed next below finishes =>
      rw [Stack.cursorAfter_pop c below] at hk
      obtain ⟨_ | ⟨p, way⟩, index⟩ := k <;> cases hk

/-! ### Places in the template -/

/-- The sequence at a way into a template. What an include brings in is not in the template. -/
def sequenceAt (blocks : List Block) : Way → Option (List Block)
  | [] => some blocks
  | (index, part) :: way => do
    let outer ← sequenceAt blocks way
    match part, outer[index]? with
    | .body, some (.directive _ children) => some children
    | .body, some (.choice _ children _) => some children
    | .otherwise, some (.choice _ _ otherwise) => some otherwise
    | _, _ => none

/-- The blocks are those that stand from `k` on in the sequence there. -/
def Cursor.Stands (blocks : List Block) (k : Cursor) (rest : List Block) : Prop :=
  ∀ sequence, sequenceAt blocks k.way = some sequence → rest = sequence.drop k.index

theorem Cursor.Stands.next {k : Cursor} {b : Block} {others : List Block} (h : k.Stands blocks (b :: others)) :
    k.next.Stands blocks others := by
  intro sequence hsequence
  have := congrArg List.tail (h sequence hsequence)
  simpa [Cursor.next, List.tail_drop] using this

/-- What is entered of a block is what it expands to. -/
theorem Cursor.Stands.enter {k : Cursor} {b : Block} {others : List Block} (h : k.Stands blocks (b :: others))
    {depth : Nat} {chain : List String} {e : Expansion} {w w' : ω}
    (expands : outcome (expand c loader limit depth chain b) w = (.ok (some e), w')) :
    (k.enter (c.entered w b)).Stands blocks e.blocks := by
  intro sequence hsequence
  rw [Cursor.enter, sequenceAt] at hsequence
  obtain ⟨outer, houter, hsequence⟩ := Option.bind_eq_some_iff.1 hsequence
  have hb : outer[k.index]? = some b := by
    have := congrArg List.head? (h outer houter)
    simpa [List.head?_drop] using this.symm
  rw [hb] at hsequence
  cases b with
  | text content => cases expands
  | foreign value => cases expands
  | choice condition children otherwise =>
    obtain ⟨holds, w₁, hcondition, hexpansion⟩ := outcome_bind_eq_ok expands
    cases hexpansion
    cases holds <;> simpa [Context.entered, hcondition, Cursor.enter] using hsequence
  | directive kind children =>
    cases kind with
    | group header =>
      cases expands
      simpa [Context.entered, Cursor.enter] using hsequence
    | guard condition =>
      obtain ⟨holds, w₁, -, hexpansion⟩ := outcome_bind_eq_ok expands
      cases holds <;> cases hexpansion
      simpa [Context.entered, Cursor.enter] using hsequence
    | inclusion path => cases hsequence
    | transform name expression =>
      cases expands
      simpa [Context.entered, Cursor.enter] using hsequence
    | custom kind => cases expands

/-- Open frames, the first of which goes on at `k`, have the blocks that stand there. -/
inductive FramesStand (blocks : List Block) : Cursor → List Frame → Prop
  | nil (k : Cursor) : FramesStand blocks k []
  | cons {k : Cursor} {f : Frame} {rest : List Frame} (first : k.Stands blocks f.blocks)
      (below : FramesStand blocks k.leave rest) : FramesStand blocks k (f :: rest)

theorem Visited.framesStand {k : Cursor} {s : Stack limit} {w : ω} (h : Visited c loader blocks w₀ k s w) :
    FramesStand blocks k (s.top :: s.rest) := by
  induction h with
  | start =>
    refine .cons ?_ (.nil _)
    rintro _ ⟨⟩
    rfl
  | @step k s s' smaller w w' before steps ih =>
    obtain _ | ⟨first, below⟩ := ih
    have moved {b : Block} {others : List Block} (next : s.top.blocks = b :: others) (text : String) :
        FramesStand blocks k.next ((s.advance others text).top :: s.rest) := by
      rw [next] at first
      exact .cons first.next below
    cases Stack.moves_of_step steps with
    | wrote next =>
      rw [Stack.cursorAfter_advance]
      exact moved next _
    | passed next room nothing =>
      rw [Stack.cursorAfter_advance]
      exact moved next _
    | opened next room expands =>
      rw [Stack.cursorAfter_push c next]
      rw [next] at first
      exact .cons (first.enter expands) (.cons first.next below)
    | closed next hrest finishes =>
      rw [Stack.cursorAfter_pop c hrest]
      rw [hrest] at below
      obtain _ | ⟨first, below⟩ := below
      exact .cons first below

/-- The blocks still to come are those behind the place in the template. -/
theorem Visited.blocks_eq {k : Cursor} {s : Stack limit} {w : ω} (h : Visited c loader blocks w₀ k s w)
    {sequence : List Block} (hsequence : sequenceAt blocks k.way = some sequence) :
    s.top.blocks = sequence.drop k.index := by
  obtain _ | ⟨first, -⟩ := h.framesStand
  exact first sequence hsequence

end

/-! ### Templates that differ in sequences -/

mutual
/-- Blocks at the place `k` that are the same but for the sequences at ways that are `spared`. -/
inductive VariedBlock (spared : Way → Prop) : Cursor → Block → Block → Prop
  | same (k : Cursor) (b : Block) : VariedBlock spared k b b
  | directive {k : Cursor} (kind : Directive) {children children' : List Block}
      (body : VariedAll spared (k.enter .body) children children') :
      VariedBlock spared k (.directive kind children) (.directive kind children')
  | choice {k : Cursor} (condition : String) {children children' otherwise otherwise' : List Block}
      (first : VariedAll spared (k.enter .body) children children')
      (second : VariedAll spared (k.enter .otherwise) otherwise otherwise') :
      VariedBlock spared k (.choice condition children otherwise) (.choice condition children' otherwise')

/-- Sequences from the place `k` on that are the same but for those at ways that are `spared`, themselves
included. -/
inductive VariedAll (spared : Way → Prop) : Cursor → List Block → List Block → Prop
  | spared {k : Cursor} (h : spared k.way) (blocks blocks' : List Block) : VariedAll spared k blocks blocks'
  | nil (k : Cursor) : VariedAll spared k [] []
  | cons {k : Cursor} {b b' : Block} {others others' : List Block} (first : VariedBlock spared k b b')
      (rest : VariedAll spared k.next others others') : VariedAll spared k (b :: others) (b' :: others')
end

namespace VariedAll

variable {spared : Way → Prop} {k : Cursor}

theorem refl (blocks : List Block) : VariedAll spared k blocks blocks := by
  induction blocks generalizing k with
  | nil => exact .nil k
  | cons b others ih => exact .cons (.same k b) ih

end VariedAll

/-- Frames that go on at `k` and are the same but for sequences at spared ways. -/
structure Frame.Varied (spared : Way → Prop) (k : Cursor) (f f' : Frame) : Prop where
  blocks : VariedAll spared k f.blocks f'.blocks
  depth : f'.depth = f.depth
  chain : f'.chain = f.chain
  transform : f'.transform = f.transform
  output : f'.output = f.output

/-- Open frames, the first of which goes on at `k`, that are the same but for sequences at spared ways. -/
inductive FramesVaried (spared : Way → Prop) : Cursor → List Frame → List Frame → Prop
  | nil (k : Cursor) : FramesVaried spared k [] []
  | cons {k : Cursor} {f f' : Frame} {rest rest' : List Frame} (first : f.Varied spared k f')
      (below : FramesVaried spared k.leave rest rest') : FramesVaried spared k (f :: rest) (f' :: rest')

/-- Stacks whose next block is at `k` and that are the same but for sequences at spared ways. -/
structure Stack.Varied {limit : Nat} (spared : Way → Prop) (k : Cursor) (s s' : Stack limit) : Prop where
  top : s.top.Varied spared k s'.top
  below : FramesVaried spared k.leave s.rest s'.rest

/-! ### Steps of stacks that differ in sequences -/

section

variable {ω : Type} (c : Context (StateM ω)) (loader : Option (Loader (StateM ω))) {limit : Nat}
  {spared : Way → Prop} {k : Cursor}

/-- Expansions that are the same but for sequences at spared ways. Their blocks begin at `k`. -/
structure Expansion.Varied (spared : Way → Prop) (k : Cursor) (e e' : Expansion) : Prop where
  blocks : VariedAll spared k e.blocks e'.blocks
  chain : e'.chain = e.chain
  transform : e'.transform = e.transform

theorem Expansion.Varied.refl (e : Expansion) : e.Varied spared k e := ⟨.refl e.blocks, rfl, rfl⟩

/-- The condition of a choice tells which of its branches the expansion is. -/
theorem expand_alike {b b' : Block} (h : VariedBlock spared k b b') (limit depth : Nat) (chain : List String)
    (w : ω) : AlikeFrom w (Option.Rel (Expansion.Varied spared (k.enter (c.entered w b))))
      (expand c loader limit depth chain b) (expand c loader limit depth chain b') := by
  have unchanged (e : Option Expansion) :
      Option.Rel (Expansion.Varied spared (k.enter (c.entered w b))) e e := by
    cases e with
    | none => exact .none
    | some e => exact .some (.refl e)
  cases h with
  | same => exact .refl unchanged _
  | choice condition first second =>
    refine (AlikeFrom.refl (V := Eq) (fun _ => rfl) _).bind fun holds _ w' hcondition heq => .pure (.some ?_)
    subst heq
    refine ⟨?_, rfl, rfl⟩
    cases holds with
    | true => simpa [Context.entered, hcondition] using first
    | false => simpa [Context.entered, hcondition] using second
  | directive kind body =>
    cases kind with
    | group header => exact .pure (.some ⟨body, rfl, rfl⟩)
    | guard condition =>
      refine (AlikeFrom.refl (V := Eq) (fun _ => rfl) _).bind fun holds _ w' _ heq => .pure ?_
      subst heq
      cases holds with
      | true => exact .some ⟨body, rfl, rfl⟩
      | false => exact .none
    | inclusion path => exact .refl unchanged _
    | transform name expression => exact .pure (.some ⟨body, rfl, rfl⟩)
    | custom kind => exact .throw _

/-- Outcomes of steps from `s` and `s'` in `w` that are the same but for sequences at spared ways, where the
next block of `s` is at `k`. -/
inductive OutcomesVaried (spared : Way → Prop) (k : Cursor) (s s' : Stack limit) (w : ω) :
    Outcome s → Outcome s' → Prop
  | done (text : String) : OutcomesVaried spared k s s' w (.done text) (.done text)
  | more {t t' : Stack limit} {smaller : t.Smaller s} {smaller' : t'.Smaller s'}
      (varied : t.Varied spared (s.cursorAfter c t w k) t') :
      OutcomesVaried spared k s s' w (.more t smaller) (.more t' smaller')

namespace Stack.Varied

variable {c loader} {s s' : Stack limit} {w : ω} (h : s.Varied spared k s')

include h

theorem closed (text : String) : OutcomesVaried c spared k s s' w (s.closed text) (s'.closed text) := by
  obtain ⟨top, rest, nested, top_le⟩ := s
  obtain ⟨top', rest', nested', top_le'⟩ := s'
  obtain ⟨-, below⟩ := h
  cases below with
  | nil => exact .done text
  | cons first below =>
    refine .more ⟨?_, ?_⟩
    · rw [Stack.cursorAfter_pop c rfl]
      exact { first with output := congrArg (· ++ text) first.output }
    · rw [Stack.cursorAfter_pop c rfl]
      exact below

variable {b b' : Block} {others others' : List Block} (hb : s.top.blocks = b :: others)
  (hb' : s'.top.blocks = b' :: others') (rest : VariedAll spared k.next others others')

include rest

theorem advanced (text : String) :
    OutcomesVaried c spared k s s' w (s.advanced hb text) (s'.advanced hb' text) := by
  refine .more ⟨?_, ?_⟩
  · rw [Stack.cursorAfter_advance]
    exact { h.top with blocks := rest, output := congrArg (· ++ text) h.top.output }
  · rw [Stack.cursorAfter_advance, Cursor.leave_next]
    exact h.below

theorem pushed (room : s.top.depth < limit) (room' : s'.top.depth < limit) {e e' : Expansion}
    (he : e.Varied spared (k.enter (c.entered w b)) e') :
    OutcomesVaried c spared k s s' w (s.pushed hb room e.blocks e.chain e.transform)
      (s'.pushed hb' room' e'.blocks e'.chain e'.transform) := by
  refine .more ⟨?_, ?_⟩
  · rw [Stack.cursorAfter_push c hb]
    exact ⟨he.blocks, congrArg (· + 1) h.top.depth, he.chain, he.transform, rfl⟩
  · rw [Stack.cursorAfter_push c hb, Cursor.leave_enter]
    exact .cons { h.top with blocks := rest } h.below

include hb hb' in
/-- Blocks that are expanded, if there is room. -/
theorem expanded (first : VariedBlock spared k b b') (ht : ∀ content, b ≠ .text content)
    (hf : ∀ value, b ≠ .foreign value) (ht' : ∀ content, b' ≠ .text content) (hf' : ∀ value, b' ≠ .foreign value) :
    AlikeFrom w (OutcomesVaried c spared k s s' w) (step c loader s) (step c loader s') := by
  rw [step_of_block c loader s hb ht hf, step_of_block c loader s' hb' ht' hf']
  by_cases room : s.top.depth < limit
  · have room' : s'.top.depth < limit := h.top.depth ▸ room
    rw [dif_pos room, dif_pos room', h.top.depth, h.top.chain]
    refine (expand_alike c loader first limit _ _ w).bind fun e e' w' _ he => ?_
    cases he with
    | none => exact .pure (h.advanced hb hb' rest "")
    | some he => exact .pure (h.pushed hb hb' rest room room' he)
  · have room' : ¬ s'.top.depth < limit := h.top.depth ▸ room
    rw [dif_neg room, dif_neg room']
    exact .throw _

end Stack.Varied

/-- Where the next block is in no spared sequence, it does not matter what these are. -/
theorem step_alike {s s' : Stack limit} (h : s.Varied spared k s') (entered : ¬ spared k.way) (w : ω) :
    AlikeFrom w (OutcomesVaried c spared k s s' w) (step c loader s) (step c loader s') := by
  generalize hb : s.top.blocks = blocks, hb' : s'.top.blocks = blocks'
  have hblocks := h.top.blocks
  rw [hb, hb'] at hblocks
  cases hblocks with
  | spared hspared => exact absurd hspared entered
  | nil =>
    rw [step_of_nil c loader s hb, step_of_nil c loader s' hb', h.top.transform, h.top.output]
    refine (AlikeFrom.refl (V := Eq) (fun _ => rfl) _).bind fun text _ w' _ heq => .pure ?_
    subst heq
    exact h.closed text
  | @cons _ b b' others others' first rest =>
    cases first with
    | same =>
      cases b with
      | text content =>
        rw [step_of_text c loader s hb, step_of_text c loader s' hb']
        exact .pure (h.advanced hb hb' rest content)
      | foreign value =>
        rw [step_of_foreign c loader s hb, step_of_foreign c loader s' hb']
        exact .throw _
      | directive | choice =>
        exact h.expanded hb hb' rest (.same k _) (by simp) (by simp) (by simp) (by simp)
    | directive kind body =>
      exact h.expanded hb hb' rest (.directive kind body) (by simp) (by simp) (by simp) (by simp)
    | choice condition first second =>
      exact h.expanded hb hb' rest (.choice condition first second) (by simp) (by simp) (by simp) (by simp)

/-! ### The run -/

/-- From a state of the render of `blocks` on, sequences that it does not enter do not matter. -/
theorem run_alike {blocks : List Block} {w₀ : ω} {s s' : Stack limit} {w : ω}
    (visited : Visited c loader blocks w₀ k s w)
    (h : s.Varied (fun way => ¬ Enters c loader limit blocks w₀ way) k s') :
    AlikeFrom w Eq (run c loader s) (run c loader s') := by
  -- The first stack has less left to do after each step, and the second one follows it.
  induction s using (InvImage.wf Stack.work (Work.order limit).wf).induction generalizing k s' w with
  | _ s ih =>
    rw [run.eq_def c loader s, run.eq_def c loader s']
    refine (step_alike c loader h (not_not_intro visited.enters) w).bind fun next next' w' steps varied => ?_
    cases varied with
    | done text => exact .pure rfl
    | @more t t' smaller smaller' varied => exact ih t smaller (visited.step steps) varied

end

/-- What stands in sequences that a render does not enter has no part in it. Let two templates be the same but
for such sequences, whatever stands there: the renders have the same result, make the same calls in the same
states, and end in the same state. -/
theorem generate_of_varied {σ τ : Type} (c : Context (StateM σ)) (loader : Option (Loader (StateM τ)))
    (limit : Nat) (blocks blocks' : List Block) (w : World σ τ (Call × σ)) :
    let entered := Enters (c.recorded Prod.mk) (loader.map Loader.supplied) limit blocks w
    let render (template : List Block) :=
      outcome (generate (c.recorded Prod.mk) (loader.map Loader.supplied) limit template) w
    VariedAll (fun way => ¬ entered way) .start blocks blocks' → render blocks' = render blocks := by
  intro entered render h
  have first : (Stack.start limit blocks).Varied (fun way => ¬ entered way) .start
      (Stack.start limit blocks') := ⟨⟨h, rfl, rfl, rfl, rfl⟩, .nil _⟩
  exact (run_alike _ _ .start first).outcome_eq.symm

/-- A choice whose condition holds, with a guard below it whose condition does not. What would fail if it were
entered stands in their other places. -/
theorem noticing_varied :
    let template (guarded otherwise : List Block) : List Block :=
      [.choice "seen" [.directive (.guard "other") guarded, .text "a"] otherwise]
    let blocks := template [.text "b"] []
    let blocks' := template [.foreign ⟨"marquee", none⟩] [.directive (.inclusion "missing") []]
    let w : World (List (String × String)) Unit (Call × List (String × String)) := ⟨[("seen", "yes")], (), []⟩
    let entered := Enters (noticing.recorded Prod.mk) none 2 blocks w
    let render (template : List Block) := outcome (generate (noticing.recorded Prod.mk) none 2 template) w
    VariedAll (fun way => ¬ entered way) .start blocks blocks' ∧ render blocks' = render blocks := by
  intro template blocks blocks' w entered render
  have guarded : ¬ entered [(0, .body), (0, .body)] := by
    rintro ⟨s, w₁, h⟩
    obtain ⟨inner, w₂, b, others, room, e, visited, next, -, expands, -⟩ := h.opened
    obtain ⟨outer, w₃, b', others', room', e', visited', next', -, expands', rfl⟩ := visited.opened
    obtain ⟨rfl, rfl⟩ := visited'.eq_start
    cases next'
    cases expands'
    cases next
    cases expands
  have otherwise : ¬ entered [(0, .otherwise)] := by
    rintro ⟨s, w₁, h⟩
    obtain ⟨outer, w₂, b, others, room, e, visited, next, part, -, -⟩ := h.opened
    obtain ⟨rfl, rfl⟩ := visited.eq_start
    cases next
    cases part
  have varied : VariedAll (fun way => ¬ entered way) .start blocks blocks' :=
    .cons (.choice "seen" (.cons (.directive (.guard "other") (.spared guarded _ _)) (.refl _))
      (.spared otherwise _ _)) (.nil _)
  exact ⟨varied, generate_of_varied noticing none 2 blocks blocks' w varied⟩

end Stencil.Render
