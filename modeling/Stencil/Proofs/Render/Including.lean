import Stencil.Proofs.Render.Comparing

/-!
# What an include brings in

An include first asks whether its template is being included already; all that follows hangs on the path
alone. Main statements: expansions in which conditions and includes go in step go in step, and an include
goes in step, up to its error about a cycle, with one that has less to compare its template with.
-/
namespace Stencil.Render

open Template (Block Directive)

/-- The error of a template inside itself. -/
def IsCycle (e : Error) : Prop := ∃ key chain, e = .cycle key chain

/-- A text is refused for how it is written or for how deep it nests. -/
theorem error_of_parseWithin {limit : Nat} {text : String} {e : Error}
    (h : Template.parseWithin limit text = .error e) :
    (∃ m, e = .malformed m) ∨ ∃ activity, e = .tooDeep limit activity := by
  unfold Template.parseWithin at h
  cases hs : Template.Token.scan text with
  | error m =>
    simp only [hs] at h
    cases h
    exact .inl ⟨_, rfl⟩
  | ok tokens =>
    cases ht : Template.ofTokens limit tokens with
    | ok blocks =>
      simp only [hs, ht] at h
      cases h
    | error r =>
      simp only [hs, ht] at h
      cases r with
      | flawed flaw t =>
        cases h
        exact .inl ⟨_, rfl⟩
      | tooDeep t =>
        cases h
        exact .inr ⟨_, rfl⟩

theorem not_isCycle_of_parseWithin {limit : Nat} {text : String} {e : Error}
    (h : Template.parseWithin limit text = .error e) : ¬ IsCycle e := by
  rintro ⟨key, chain, rfl⟩
  obtain ⟨m, hm⟩ | ⟨activity, hdeep⟩ := error_of_parseWithin h
  · cases hm
  · cases hdeep

/-- Reports leave the state alone. -/
def Context.Quiet {ω : Type} (c : Context (StateM ω)) : Prop :=
  ∀ event w, (c.report event).run w = ((), w)

theorem Context.Quiet.outcome_report {ω : Type} {c : Context (StateM ω)} (h : c.Quiet) (event : Event)
    (w : ω) : outcome (liftM (c.report event)) w = (.ok (), w) := by
  rw [outcome_liftM, h]

section

variable {m : Type → Type} [Monad m]

/-- The loader that gives each path its answer, whenever it is asked. -/
def Loader.ofAnswers (answers : String → Except Error Source) : Loader m := fun path =>
  ExceptT.mk (pure (answers path))

/-- The blocks of the template at `path`, wherever it is included. -/
def fetch (report : Event → m Unit) (load : Loader m) (limit : Nat) (path : String) :
    Action m (List Block) := do
  let source ← load path
  (reportFound report source : m Unit)
  parseReported report limit source.text

variable [LawfulMonad m] (context : Context m) (limit : Nat) (path : String) (depth : Nat)

theorem expandInclude_of_mem (load : Loader m) {chain : List String} (h : includeKey path ∈ chain) :
    expandInclude context (some load) limit path depth chain = throw (.cycle (includeKey path) chain) := by
  simp [expandInclude, h]

theorem expandInclude_of_not_mem (load : Loader m) {chain : List String}
    (h : includeKey path ∉ chain) :
    expandInclude context (some load) limit path depth chain = (do
      context.report (.including path depth)
      let blocks ← fetch context.report load limit path
      return ⟨blocks, chain ++ [includeKey path], none⟩) := by
  simp only [expandInclude, fetch, h, List.contains_eq_mem, decide_false, Bool.false_eq_true, if_false,
    bind_assoc]
  refine bind_congr fun _ => bind_congr fun source => ?_
  unfold reportFound
  cases source.location <;> simp

end

/-- An include that the loader cannot load ends a render with what the loader fails with. -/
theorem outcome_generate_inclusion {σ : Type} {c : Context (StateM σ)} (hc : c.Quiet)
    {answers : String → Except Error Source} {limit : Nat} (hlimit : 0 < limit) {path : String} {e : Error}
    (h : answers path = .error e) (s : σ) :
    outcome (generate c (some (Loader.ofAnswers answers)) limit [.directive (.inclusion path) []]) s
      = (.error e, s) := by
  have hload : outcome (Loader.ofAnswers answers path) s = (.error e, s) := by
    rw [← h]
    rfl
  have hblocks : outcome (includedBlocks c.valuation.report (some (Loader.ofAnswers answers)) limit path
      (0 + 1) []) s = (.error e, s) := by
    rw [includedBlocks, if_neg List.not_mem_nil, outcome_bind]
    simp only [Context.valuation, hc.outcome_report, outcome_bind, hload]
  rw [generate_eq]
  simp only [evaluate, evaluateBlock, hlimit, if_true, outcome_bind, hblocks]

namespace InStepUnless

variable {ω ω' : Type} {escape : Error → Prop} {R : ω → ω' → Prop} {c : Context (StateM ω)}
  {c' : Context (StateM ω')} {loader : Option (Loader (StateM ω))} {loader' : Option (Loader (StateM ω'))}
  {limit limit' depth depth' : Nat} {chain chain' : List String}

/-- Expansions of a block go in step if conditions do and the include does, where the block is one. -/
theorem expand (chained : List String → List String → Prop) (hchained : chained chain chain')
    (hcondition : ∀ expression, InStepUnless escape R Eq (c.evalCondition expression)
      (c'.evalCondition expression)) (b : Block)
    (hinclude : ∀ path children, b = .directive (.inclusion path) children →
      InStepUnless escape R (Expansion.Agrees chained) (expandInclude c loader limit path depth chain)
        (expandInclude c' loader' limit' path depth' chain')) :
    InStepUnless escape R (Option.Rel (Expansion.Agrees chained))
      (Render.expand c loader limit depth chain b) (Render.expand c' loader' limit' depth' chain' b) := by
  have both (blocks : List Block) (transform : Option (String × String)) :
      Option.Rel (Expansion.Agrees chained) (some ⟨blocks, chain, transform⟩)
        (some ⟨blocks, chain', transform⟩) := .some ⟨rfl, hchained, rfl⟩
  cases b with
  | text content => exact pure .none
  | foreign value => exact throw _
  | choice condition children otherwise =>
    refine (hcondition condition).bind fun holds _ h => ?_
    rw [h]
    exact pure (both _ _)
  | directive kind children =>
    cases kind with
    | group header => exact pure (both _ _)
    | guard condition =>
      refine (hcondition condition).bind fun holds _ h => ?_
      subst h
      cases holds with
      | true => exact pure (both _ _)
      | false => exact pure .none
    | inclusion path => exact (hinclude path children rfl).bind fun e e' he => pure (.some he)
    | transform name expression => exact pure (both _ _)
    | custom kind => exact throw _

/-- An include with less on its chain goes in step until the other one meets a cycle. Both chains grow by
the one key. -/
theorem expandInclude_of_subset (c : Context (StateM ω)) (loader : Option (Loader (StateM ω)))
    (limit depth : Nat) (path : String) (h : chain' ⊆ chain) :
    InStepUnless IsCycle Eq
      (Expansion.Agrees fun all some => ∃ key, all = chain ++ [key] ∧ some = chain' ++ [key])
      (expandInclude c loader limit path depth chain) (expandInclude c loader limit path depth chain') := by
  cases loader with
  | none => exact throw _
  | some load =>
    by_cases hc : includeKey path ∈ chain
    · rw [expandInclude_of_mem c limit path depth load hc]
      exact escapes ⟨_, _, rfl⟩ _
    · rw [expandInclude_of_not_mem c limit path depth load hc,
        expandInclude_of_not_mem c limit path depth load (fun hc' => hc (h hc'))]
      exact (refl _).bind fun _ _ _ => (refl _).bind fun blocks _ hb => pure ⟨hb, ⟨_, rfl, rfl⟩, rfl⟩

end InStepUnless

end Stencil.Render
