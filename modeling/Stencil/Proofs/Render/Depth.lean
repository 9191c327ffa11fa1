import Stencil.Proofs.Render.Inlining
import Stencil.Proofs.Render.Frames
import Stencil.Proofs.Template.Limits

/-!
# The depth of a render and the nesting of its text

The reader counts the directives that are open around an opening, and the generator counts the frames around
a block. What a block expands to nests less deep than the block, unless it is an include, so every frame
keeps room for its blocks until an include brings in others. Main statement: where a text that was read
within a limit is too deep to generate, an include has brought in more, or was too deep to be read.
-/
namespace Stencil.Render

open Template (Block)
open Template.Block (nesting nestings)

/-! ### Room for blocks -/

theorem Expansion.Of.nestings_lt {chain : List String} {b : Block} {e : Expansion} (h : e.Of chain b)
    (plain : keyOf? b = none) : nestings e.blocks < nesting b := by
  cases h with
  | inclusion children included fresh => cases plain
  | group | guard | transform =>
    rw [nesting]
    exact Nat.lt_succ_self _
  | first condition children otherwise =>
    change nestings children < nesting (.choice condition children otherwise)
    rw [nesting]
    omega
  | second condition children otherwise =>
    change nestings otherwise < nesting (.choice condition children otherwise)
    rw [nesting]
    omega

/-- A block that is expanded takes a level. -/
theorem nesting_pos {b : Block} (text : ∀ content, b ≠ .text content) (foreign : ∀ value, b ≠ .foreign value) :
    0 < nesting b := by
  cases b with
  | text content => exact absurd rfl (text content)
  | foreign value => exact absurd rfl (foreign value)
  | directive | choice =>
    rw [nesting]
    exact Nat.succ_pos _

section

variable {limit : Nat}

/-- Each frame has room for what its blocks nest. -/
def Stack.Roomy (s : Stack limit) : Prop := ∀ f ∈ s.top :: s.rest, f.depth + nestings f.blocks ≤ limit

variable {ω : Type} {c : Context (StateM ω)} {loader : Option (Loader (StateM ω))}

/-- A step that expands no include leaves room in each frame. -/
theorem Stack.Roomy.step {s s' : Stack limit} {w w' : ω} (h : s.Roomy) (moves : s.Moves c loader w s' w')
    (plain : ∀ b blocks e w₁, s.top.blocks = b :: blocks →
      outcome (expand c loader limit (s.top.depth + 1) s.top.chain b) w = (.ok (some e), w₁) →
      s'.top.blocks = e.blocks → keyOf? b = none) : s'.Roomy := by
  have htop := h s.top (by simp)
  have hrest := fun f hf => h f (List.mem_cons_of_mem _ hf)
  cases moves with
  | @wrote content blocks next | @passed b blocks w' next room nothing =>
    rw [next, nestings] at htop
    refine List.forall_mem_cons.2 ⟨?_, hrest⟩
    change s.top.depth + nestings blocks ≤ limit
    omega
  | @opened b blocks e w' next room expands =>
    have hlt := (of_expand expands).nestings_lt (plain b blocks e w' next expands rfl)
    rw [next, nestings] at htop
    refine List.forall_mem_cons.2 ⟨?_, List.forall_mem_cons.2 ⟨?_, hrest⟩⟩
    · change s.top.depth + 1 + nestings e.blocks ≤ limit
      omega
    · change s.top.depth + nestings blocks ≤ limit
      omega
  | @closed f rest text w' next below finishes =>
    rw [below] at hrest
    exact List.forall_mem_cons.2 (List.forall_mem_cons.1 hrest)

end

/-! ### Includes -/

section

variable {σ τ : Type} (c : Context (StateM σ)) (loader : Option (Loader (StateM τ))) (limit : Nat)
  (blocks : List Block) (w₀ w' : World σ τ (Call × σ))

/-- The render of `blocks` from `w₀` expands an include: its text is loaded and read, and the blocks that it is
read as come next. -/
def IncludeExpanded : Prop :=
  ∃ (opened : List Block) (s s' : Stack limit) (smaller : s'.Smaller s) (w w₁ : World σ τ (Call × σ))
    (load : Loader (StateM τ)) (source : Source),
    Reached (c.recorded Prod.mk) (loader.map Loader.supplied) blocks w₀ opened s w ∧
      outcome (step (c.recorded Prod.mk) (loader.map Loader.supplied) s) w = (.ok (.more s' smaller), w₁) ∧
      loader = some load ∧ s.Asks load w (.ok source) ∧
      Template.parseWithin limit source.text = .ok s'.top.blocks

/-- The render of `blocks` from `w₀` fails in `w'` as the text of an include is loaded, but reading it fails
with `e`. -/
def IncludeRefused (e : Error) : Prop :=
  ∃ (opened : List Block) (s : Stack limit) (w : World σ τ (Call × σ)) (load : Loader (StateM τ))
    (source : Source),
    Reached (c.recorded Prod.mk) (loader.map Loader.supplied) blocks w₀ opened s w ∧
      outcome (step (c.recorded Prod.mk) (loader.map Loader.supplied) s) w = (.error e, w') ∧
      loader = some load ∧ s.Asks load w (.ok source) ∧ Template.parseWithin limit source.text = .error e

variable {c loader limit blocks w₀ w'}

theorem Reached.include_of_asks {opened : List Block} {s : Stack limit} {w : World σ τ (Call × σ)}
    (h : Reached (c.recorded Prod.mk) (loader.map Loader.supplied) blocks w₀ opened s w)
    {load : Loader (StateM τ)} {answer : Except Error Source} (asks : s.Asks load w answer) :
    ∃ key chain, IncludeReached c loader limit blocks w₀ key chain := by
  obtain ⟨next⟩ := asks
  exact ⟨_, _, opened, s, w, _, h, by rw [next]; rfl, rfl, rfl⟩

theorem IncludeExpanded.reached (h : IncludeExpanded c loader limit blocks w₀) :
    ∃ key chain, IncludeReached c loader limit blocks w₀ key chain := by
  obtain ⟨opened, s, s', smaller, w, w₁, load, source, reached, -, -, asks, -⟩ := h
  exact reached.include_of_asks asks

/-- As long as no include has been expanded, each frame has room for its blocks. -/
theorem Reached.roomy (hblocks : nestings blocks ≤ limit) (hnone : ¬ IncludeExpanded c loader limit blocks w₀)
    {opened : List Block} {s : Stack limit} {w : World σ τ (Call × σ)}
    (h : Reached (c.recorded Prod.mk) (loader.map Loader.supplied) blocks w₀ opened s w) : s.Roomy := by
  induction h with
  | start =>
    intro f hf
    cases List.mem_singleton.1 hf
    change 0 + nestings blocks ≤ limit
    omega
  | @step opened s s' smaller w w₁ before steps ih =>
    refine ih.step (Stack.moves_of_step steps) fun b others e w₂ next expands hblocks => ?_
    cases hkey : keyOf? b with
    | none => rfl
    | some key =>
      unfold keyOf? at hkey
      split at hkey
      · obtain ⟨e', w₃, hinclude, he⟩ := outcome_bind_eq_ok expands
        cases he
        obtain ⟨load, source, hload, hsource, hreads⟩ := loaded_of_expandInclude hinclude
        refine absurd ⟨opened, s, s', smaller, w, w₁, load, source, before, steps, hload, ?_, ?_⟩ hnone
        · exact hsource ▸ .intro next
        · rw [hblocks, hreads]
      · cases hkey

variable (c loader) in
/-- A text that was read within a limit cannot exceed it by itself. Where generating is too deep and this is not
what a call of the context or the loader failed with, an include has been expanded before, or its text was
too deep to be read; and where no include is reached, only a call can have failed so. -/
theorem tooDeep_of_include {p : Int} {text : String} (hparse : Template.parse p text = .ok blocks)
    (hlimit : p ≤ limit) (state : σ) (supply : τ) {bound : Int} {activity : String} :
    let w₀ : World σ τ (Call × σ) := ⟨state, supply, []⟩
    let result := outcome (generate (c.recorded Prod.mk) (loader.map Loader.supplied) limit blocks) w₀
    result.1 = .error (.tooDeep bound activity) →
      (IncludeExpanded c loader limit blocks w₀ ∨
        IncludeRefused c loader limit blocks w₀ result.2 (.tooDeep bound activity) ∨
        PassedOn c loader limit blocks w₀ result.2 (.tooDeep bound activity)) ∧
      ((∃ key chain, IncludeReached c loader limit blocks w₀ key chain) ∨
        CallFailed c (.tooDeep bound activity) result.2) := by
  intro w₀ result h
  obtain ⟨opened, s, w, reached, hfails⟩ :=
    exists_failing_step (Prod.ext h rfl : result = (.error (.tooDeep bound activity), result.2))
  have fails := fails_of_step hfails
  generalize he : Error.tooDeep bound activity = e at hfails fails ⊢
  cases fails with
  | unsupported kind detail => cases he
  | cycle next included => cases he
  | tooDeep next text foreign full =>
    by_cases hexpanded : IncludeExpanded c loader limit blocks w₀
    · exact ⟨.inl hexpanded, .inl hexpanded.reached⟩
    · have hroom := reached.roomy (by have := Template.nestings_le_of_parse hparse; omega) hexpanded
      have htop := hroom s.top List.mem_cons_self
      have hpos := nesting_pos text foreign
      rw [next, nestings] at htop
      omega
  | unread given loaded flawed =>
    exact ⟨.inr (.inl ⟨opened, s, w, _, _, reached, hfails, given, loaded, flawed⟩),
      .inl (reached.include_of_asks loaded)⟩
  | unloaded given missing =>
    exact ⟨.inr (.inr (.inr ⟨opened, s, w, _, reached, hfails, given, missing⟩)),
      .inl (reached.include_of_asks missing)⟩
  | call failed => exact ⟨.inr (.inr (.inl failed)), .inr failed⟩

end

/-- An include of a template that is read within the limit, but is one level too deep where it is included. -/
theorem tooDeep_of_include_below :
    let blocks := [.directive (.inclusion "a") []]
    let load : Loader (StateM Unit) := Library.loader [("a", "!!% if x\n%!!\n")]
    let w₀ : World (List (String × String)) Unit (Call × List (String × String)) := ⟨[], (), []⟩
    let result := outcome (generate (noticing.recorded Prod.mk) (some load.supplied) 1 blocks) w₀
    Template.parse 1 "!!% include a\n%!!\n" = .ok blocks ∧ (1 : Int) ≤ (1 : Nat) ∧
      result.1 = .error (.tooDeep 1 "generating output") ∧
      (IncludeExpanded noticing (some load) 1 blocks w₀ ∨
        IncludeRefused noticing (some load) 1 blocks w₀ result.2 (.tooDeep 1 "generating output") ∨
        PassedOn noticing (some load) 1 blocks w₀ result.2 (.tooDeep 1 "generating output")) ∧
      ((∃ key chain, IncludeReached noticing (some load) 1 blocks w₀ key chain) ∨
        CallFailed noticing (.tooDeep 1 "generating output") result.2) := by
  intro blocks load w₀ result
  have hparse : Template.parse 1 "!!% include a\n%!!\n" = .ok blocks := by cbv
  have hlimit : (1 : Int) ≤ (1 : Nat) := by decide
  have h : result.1 = .error (.tooDeep 1 "generating output") := by
    simp only [result, blocks, load, w₀]
    cbv
  exact ⟨hparse, hlimit, h, tooDeep_of_include noticing (some load) hparse hlimit [] () h⟩

end Stencil.Render
