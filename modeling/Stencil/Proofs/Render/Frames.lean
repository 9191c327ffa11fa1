import Mathlib.Data.List.Infix
import Stencil.Proofs.Render.Stepping

/-!
# The frames of a render

The stack of a render follows the directives that are open: it has a frame for each of them above the lowest
one, and the chain of a frame holds the keys of the includes that are open below it and at it. Main statement:
so it is in every state of a render, no key is ever twice on a chain, and the error of a template inside
itself tells of an include that is open and not of one that has ended.
-/
namespace Stencil.Render

open Template (Block Directive)

/-- The key of a block that is an include. -/
def keyOf? : Block → Option String
  | .directive (.inclusion path) _ => some (includeKey path)
  | _ => none

/-- The keys of the includes among blocks. -/
def includeKeys (blocks : List Block) : List String := blocks.filterMap keyOf?

theorem includeKeys_append (blocks blocks' : List Block) :
    includeKeys (blocks ++ blocks') = includeKeys blocks ++ includeKeys blocks' :=
  List.filterMap_append

theorem Expansion.Of.chain_eq {chain : List String} {b : Block} {e : Expansion} (h : e.Of chain b) :
    e.chain = chain ++ includeKeys [b] := by
  cases h <;> simp [includeKeys, keyOf?]

theorem Expansion.Of.nodup {chain : List String} {b : Block} {e : Expansion} (h : e.Of chain b)
    (hchain : chain.Nodup) : e.chain.Nodup := by
  cases h with
  | inclusion children included fresh =>
    rw [List.nodup_append]
    refine ⟨hchain, by simp, ?_⟩
    rintro key hkey _ (_ | ⟨_, ⟨⟩⟩) rfl
    exact fresh hkey
  | _ => exact hchain

section

variable {limit : Nat}

/-- The frames of `s` belong to the directives of `opened`, innermost first. -/
structure Stack.Follows (opened : List Block) (s : Stack limit) : Prop where
  chains : (s.top :: s.rest).map Frame.chain = opened.tails.map fun inner => includeKeys inner.reverse
  nodup : (includeKeys opened.reverse).Nodup

theorem Stack.Follows.top_chain {opened : List Block} {s : Stack limit} (h : s.Follows opened) :
    s.top.chain = includeKeys opened.reverse := by
  have hchains := h.chains
  cases opened <;> exact (List.cons.inj hchains).1

theorem Stack.Follows.length_rest {opened : List Block} {s : Stack limit} (h : s.Follows opened) :
    s.rest.length = opened.length := by
  have hlength := congrArg List.length h.chains
  simpa using hlength

theorem Stack.follows_start (blocks : List Block) : (Stack.start limit blocks).Follows [] :=
  ⟨rfl, List.nodup_nil⟩

variable {ω : Type} {c : Context (StateM ω)} {loader : Option (Loader (StateM ω))}

/-- A step keeps the frames and the open directives together. -/
theorem Stack.Follows.step {opened : List Block} {s s' : Stack limit} {w w' : ω} (h : s.Follows opened)
    (moves : s.Moves c loader w s' w') : s'.Follows (s.openAfter s' opened) := by
  cases moves with
  | wrote next =>
    rw [openAfter_advance]
    exact ⟨h.chains, h.nodup⟩
  | passed next room nothing =>
    rw [openAfter_advance]
    exact ⟨h.chains, h.nodup⟩
  | @opened b blocks e w' next room expands =>
    have hof := of_expand expands
    have hchain : e.chain = includeKeys (b :: opened).reverse := by
      rw [hof.chain_eq, h.top_chain, List.reverse_cons, includeKeys_append]
    rw [openAfter_push next]
    refine ⟨?_, ?_⟩
    · rw [List.tails_cons, List.map_cons, List.map_cons, ← h.chains, ← hchain]
      rfl
    · rw [← hchain]
      exact hof.nodup (h.top_chain ▸ h.nodup)
  | @closed f rest text w' next below finishes =>
    rw [openAfter_pop below]
    cases opened with
    | nil =>
      have hlength := h.length_rest
      rw [below] at hlength
      cases hlength
    | cons b opened =>
      have hchains := h.chains
      rw [below, List.tails_cons] at hchains
      refine ⟨(List.cons.inj hchains).2, ?_⟩
      have hnodup := h.nodup
      rw [List.reverse_cons, includeKeys_append] at hnodup
      exact (List.nodup_append.1 hnodup).1

theorem Reached.follows {opened blocks : List Block} {s : Stack limit} {w w₀ : ω}
    (h : Reached c loader blocks w₀ opened s w) : s.Follows opened := by
  induction h with
  | start => exact Stack.follows_start blocks
  | step before steps ih => exact ih.step (Stack.moves_of_step steps)

/-! ### The frames by their height -/

/-- The frames of a stack, outermost first. -/
def Stack.frames (s : Stack limit) : List Frame := (s.top :: s.rest).reverse

/-- The frames of `s` go with the directives of `openers`, outermost first: there is one frame more, and at most
one more than the limit. The frame at height `i` has depth `i`, and the keys of the includes among the `i`
lowest directives are its chain, no key twice; so the next chain is the same or longer by one key. -/
structure Stack.Consistent (openers : List Block) (s : Stack limit) : Prop where
  length_eq : s.frames.length = openers.length + 1
  length_le : s.frames.length ≤ limit + 1
  depth (i : Nat) (f : Frame) (at_height : s.frames[i]? = some f) : f.depth = i
  chain (i : Nat) (f : Frame) (at_height : s.frames[i]? = some f) : f.chain = includeKeys (openers.take i)
  nodup (f : Frame) (open_now : f ∈ s.frames) : f.chain.Nodup
  grows (i : Nat) (f g : Frame) (below : s.frames[i]? = some f) (above : s.frames[i + 1]? = some g) :
    g.chain = f.chain ∨ ∃ key, g.chain = f.chain ++ [key]

theorem depth_of_nested {fs : List Frame} (h : Nested fs) {i : Nat} {f : Frame} (hf : fs.reverse[i]? = some f) :
    f.depth = i := by
  induction fs with
  | nil => cases hf
  | cons g rest ih =>
    rw [List.reverse_cons] at hf
    by_cases hi : i < rest.reverse.length
    · rw [List.getElem?_append_left hi] at hf
      exact ih h.tail hf
    · rw [List.getElem?_append_right (Nat.le_of_not_lt hi), List.getElem?_singleton] at hf
      split at hf
      · cases hf
        have hlength := h.length_eq
        rw [List.length_reverse] at *
        omega
      · cases hf

theorem Stack.Follows.chain_eq {opened : List Block} {s : Stack limit} (h : s.Follows opened) {i : Nat}
    {f : Frame} (hf : s.frames[i]? = some f) : f.chain = includeKeys (opened.reverse.take i) := by
  have hchains : s.frames.map Frame.chain = opened.reverse.inits.map includeKeys := by
    rw [Stack.frames, List.map_reverse, h.chains, List.inits_reverse, List.map_reverse, List.map_map]
    rfl
  have hi := congrArg (fun chains => chains[i]?) hchains
  simp only [List.getElem?_map, hf, Option.map_some] at hi
  obtain ⟨inner, hinner, hkeys⟩ := Option.map_eq_some_iff.1 hi.symm
  obtain ⟨hlt, rfl⟩ := List.getElem?_eq_some_iff.1 hinner
  rw [← hkeys, List.getElem_inits]

theorem includeKeys_take_succ (blocks : List Block) (i : Nat) :
    includeKeys (blocks.take (i + 1)) = includeKeys (blocks.take i) ∨
      ∃ key, includeKeys (blocks.take (i + 1)) = includeKeys (blocks.take i) ++ [key] := by
  rw [List.take_add_one, includeKeys_append]
  cases blocks[i]? with
  | none => exact .inl (List.append_nil _)
  | some b =>
    cases hkey : keyOf? b with
    | none => exact .inl (by simp [includeKeys, hkey])
    | some key => exact .inr ⟨key, by simp [includeKeys, hkey]⟩

theorem Stack.Follows.consistent {opened : List Block} {s : Stack limit} (h : s.Follows opened) :
    s.Consistent opened.reverse := by
  have hlength : s.frames.length = opened.length + 1 := by simp [Stack.frames, h.length_rest]
  refine ⟨by rw [hlength, List.length_reverse], ?_, fun i f hf => depth_of_nested s.nested hf,
    fun i f hf => h.chain_eq hf, fun f hf => ?_, fun i f g hf hg => ?_⟩
  · have hdepth := s.nested.length_eq
    have hroom := s.top_le
    have hrest := h.length_rest
    omega
  · obtain ⟨i, hi⟩ := List.getElem?_of_mem hf
    rw [h.chain_eq hi]
    exact h.nodup.sublist ((List.take_prefix i opened.reverse).filterMap keyOf?).sublist
  · rw [h.chain_eq hf, h.chain_eq hg]
    exact includeKeys_take_succ opened.reverse i

end

/-! ### Blocks one after the other -/

/-- Blocks fail as the first one of them does that fails, where those before it have led. -/
theorem evaluate_eq_error {ω : Type} {r : Rules (StateM ω)} {limit depth : Nat} {chain : List String}
    {blocks : List Block} {w w' : ω} {e : Error}
    (h : outcome (r.evaluate limit depth chain blocks) w = (.error e, w')) :
    ∃ before b after output w₁, blocks = before ++ b :: after ∧
      outcome (r.evaluate limit depth chain before) w = (.ok output, w₁) ∧
      outcome (r.evaluate limit depth chain [b]) w₁ = (.error e, w') := by
  induction blocks generalizing w with
  | nil =>
    rw [Rules.evaluate] at h
    cases h
  | cons b bs ih =>
    rw [Rules.evaluate_cons] at h
    obtain h | ⟨first, w₁, hfirst, h⟩ := outcome_bind_eq_error h
    · refine ⟨[], b, bs, "", w, rfl, ?_, h⟩
      rw [Rules.evaluate, outcome_pure]
    · obtain h | ⟨others, w₂, -, h⟩ := outcome_bind_eq_error h
      · obtain ⟨before, b', after, output, w₂, rfl, hbefore, hfails⟩ := ih h
        refine ⟨b :: before, b', after, first ++ output, w₂, rfl, ?_, hfails⟩
        rw [Rules.evaluate_cons, outcome_bind_of_ok hfirst, outcome_bind_of_ok hbefore, outcome_pure]
      · cases h

section

variable {σ τ : Type}

/-- The render of `blocks` from `w₀` gets to an include of `key` inside of the includes of `chain`, outermost
first. -/
def IncludeReached (c : Context (StateM σ)) (loader : Option (Loader (StateM τ))) (limit : Nat)
    (blocks : List Block) (w₀ : World σ τ (Call × σ)) (key : String) (chain : List String) : Prop :=
  ∃ (opened : List Block) (s : Stack limit) (w : World σ τ (Call × σ)) (b : Block),
    Reached (c.recorded Prod.mk) (loader.map Loader.supplied) blocks w₀ opened s w ∧
      s.top.blocks.head? = some b ∧ keyOf? b = some key ∧ chain = includeKeys opened.reverse

variable {c : Context (StateM σ)} {loader : Option (Loader (StateM τ))} {limit : Nat} {blocks : List Block}
  {w₀ w' : World σ τ (Call × σ)}

/-- Where a render meets a cycle, the include that comes next is inside of an open one with its key. -/
theorem cycle_of_generate {key : String} {chain : List String}
    (h : outcome (generate (c.recorded Prod.mk) (loader.map Loader.supplied) limit blocks) w₀
      = (.error (.cycle key chain), w')) :
    (key ∈ chain ∧ chain.Nodup ∧ IncludeReached c loader limit blocks w₀ key chain) ∨
      PassedOn c loader limit blocks w₀ w' (.cycle key chain) := by
  obtain ⟨opened, s, w, reached, hfails⟩ := exists_failing_step h
  have follows := reached.follows
  generalize he : Error.cycle key chain = e at hfails ⊢
  cases fails_of_step hfails with
  | unsupported kind detail => cases he
  | tooDeep next text foreign full => cases he
  | cycle next included =>
    cases he
    rw [follows.top_chain] at included ⊢
    exact .inl ⟨included, follows.nodup, opened, s, w, _, reached, by rw [next]; rfl, rfl, rfl⟩
  | unread given loaded flawed =>
    cases he
    exact absurd ⟨key, chain, rfl⟩ (not_isCycle_of_parseWithin flawed)
  | unloaded given missing => exact .inr (.inr ⟨opened, s, w, _, reached, hfails, given, missing⟩)
  | call failed => exact .inr (.inl failed)

/-- The stack is consistent in every state of a render. A cycle that a render fails with, unless it was
answered so, is therefore an include inside of an open one with its key, and no key is twice on its chain; and
blocks one after the other only meet a cycle that one of them meets alone. -/
theorem frames_consistent (c : Context (StateM σ)) (loader : Option (Loader (StateM τ))) (limit : Nat)
    (blocks : List Block) (state : σ) (supply : τ) :
    let w₀ : World σ τ (Call × σ) := ⟨state, supply, []⟩
    let render (template : List Block) :=
      outcome (generate (c.recorded Prod.mk) (loader.map Loader.supplied) limit template)
    (∀ (opened : List Block) (s : Stack limit) (w : World σ τ (Call × σ)),
      Reached (c.recorded Prod.mk) (loader.map Loader.supplied) blocks w₀ opened s w →
        s.Consistent opened.reverse) ∧
    ∀ key chain w', render blocks w₀ = (.error (.cycle key chain), w') →
      ((key ∈ chain ∧ chain.Nodup ∧ IncludeReached c loader limit blocks w₀ key chain) ∨
        PassedOn c loader limit blocks w₀ w' (.cycle key chain)) ∧
      ∃ before b after output w, blocks = before ++ b :: after ∧ render before w₀ = (.ok output, w) ∧
        render [b] w = (.error (.cycle key chain), w') := by
  intro w₀ render
  refine ⟨fun opened s w reached => reached.follows.consistent, fun key chain w' h => ?_⟩
  refine ⟨cycle_of_generate h, ?_⟩
  simp only [render, generate_eq_evaluate_rules] at h ⊢
  exact evaluate_eq_error h

end

end Stencil.Render
