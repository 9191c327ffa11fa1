import Mathlib
import Stencil.Proofs.Render.Including

/-!
# An include stands for what it brings in

Wherever an include stands in a template, a group around the blocks of the included template can stand in
its place: the include is one directive deep, and so is the group. What is on the chain differs, but the
chain is only compared with, so a longer one can at most end a render with a cycle. Main statement: if a
render ends with anything but a cycle, then with an include replaced by the blocks it brings in it has the
same result, makes the same calls, and leaves the same state.
-/
namespace Stencil.Render

open Template (Block Directive)

/-- One place in a sequence of blocks, at any depth and in any branch, where `old` stands in the first
sequence and `new` in the second one. -/
inductive Replaced (old new : Block) : List Block → List Block → Prop
  | here (others : List Block) : Replaced old new (old :: others) (new :: others)
  | later (b : Block) {bs bs' : List Block} (rest : Replaced old new bs bs') :
      Replaced old new (b :: bs) (b :: bs')
  | body (kind : Directive) {children children' : List Block} (others : List Block)
      (inner : Replaced old new children children') :
      Replaced old new (.directive kind children :: others) (.directive kind children' :: others)
  | first (condition : String) {children children' : List Block} (otherwise others : List Block)
      (inner : Replaced old new children children') :
      Replaced old new (.choice condition children otherwise :: others)
        (.choice condition children' otherwise :: others)
  | second (condition : String) (children : List Block) {otherwise otherwise' : List Block}
      (others : List Block) (inner : Replaced old new otherwise otherwise') :
      Replaced old new (.choice condition children otherwise :: others)
        (.choice condition children otherwise' :: others)

section

variable {ω : Type} {c : Context (StateM ω)}

/-- With less on the chain, blocks render in step until a cycle is met. -/
theorem evaluate_of_subset (c : Context (StateM ω)) (loader : Option (Loader (StateM ω))) (limit depth : Nat)
    {chain chain' : List String} (h : chain' ⊆ chain) (blocks : List Block) :
    InStepUnless IsCycle Eq Eq ((c.rules loader limit).evaluate limit depth chain blocks)
      ((c.rules loader limit).evaluate limit depth chain' blocks) := by
  refine .evaluate_of_expand (fun all some => some ⊆ all) (fun _ _ _ => .refl _) ?_ depth h blocks
  intro d all some b hsome
  refine .expand (fun all some => some ⊆ all) hsome (fun _ => .refl _) b fun path _ _ => ?_
  refine (InStepUnless.expandInclude_of_subset c loader limit d path hsome).mono ?_
  rintro e e' ⟨hblocks, ⟨key, he, he'⟩, htransform⟩
  refine ⟨hblocks, ?_, htransform⟩
  rw [he, he']
  exact List.append_subset.2
    ⟨List.Subset.trans hsome (List.subset_append_left _ _), List.subset_append_right _ _⟩

/-! ### Replacing a block by one in step -/

/-- Expansions whose blocks render in step at every depth. -/
def Expansion.Renders (escape : Error → Prop) (r : Rules (StateM ω)) (limit : Nat)
    (e e' : Expansion) : Prop :=
  e.transform = e'.transform ∧ ∀ depth, InStepUnless escape Eq Eq
    (r.evaluate limit depth e.chain e.blocks) (r.evaluate limit depth e'.chain e'.blocks)

variable {escape : Error → Prop} {loader : Option (Loader (StateM ω))} {limit : Nat}

theorem Expansion.Renders.refl {r : Rules (StateM ω)} (e : Expansion) : e.Renders escape r limit e :=
  ⟨rfl, fun _ => .refl _⟩

/-- Blocks that expand to blocks in step are in step. -/
theorem evaluateBlock_inStep {r : Rules (StateM ω)} {depth : Nat} {chain : List String} {b b' : Block}
    (ht : ∀ content, b ≠ .text content) (hf : ∀ value, b ≠ .foreign value)
    (ht' : ∀ content, b' ≠ .text content) (hf' : ∀ value, b' ≠ .foreign value)
    (hexpand : InStepUnless escape Eq (Option.Rel (Expansion.Renders escape r limit))
      (r.expand (depth + 1) chain b) (r.expand (depth + 1) chain b')) :
    InStepUnless escape Eq Eq (r.evaluateBlock limit depth chain b)
      (r.evaluateBlock limit depth chain b') := by
  refine .evaluateBlock ht hf ht' hf' id (fun h => .inr ⟨rfl, h⟩) (fun _ => hexpand) fun _ e e' he => ?_
  rw [he.1]
  refine (he.2 (depth + 1)).bind fun text _ h => ?_
  rw [h]
  exact .refl _

/-- Bodies in step make a directive expand to blocks in step. -/
theorem expand_directive_inStep {chain : List String} {children children' : List Block}
    (h : ∀ depth, InStepUnless escape Eq Eq ((c.rules loader limit).evaluate limit depth chain children)
      ((c.rules loader limit).evaluate limit depth chain children'))
    (depth : Nat) (kind : Directive) :
    InStepUnless escape Eq (Option.Rel (Expansion.Renders escape (c.rules loader limit) limit))
      (expand c loader limit depth chain (.directive kind children))
      (expand c loader limit depth chain (.directive kind children')) := by
  have both (transform : Option (String × String)) :
      Option.Rel (Expansion.Renders escape (c.rules loader limit) limit)
        (some ⟨children, chain, transform⟩) (some ⟨children', chain, transform⟩) := .some ⟨rfl, h⟩
  cases kind with
  | group header => exact .pure (both none)
  | guard condition =>
    refine (InStepUnless.refl _).bind fun holds _ hh => ?_
    subst hh
    cases holds with
    | true => exact .pure (both none)
    | false => exact .pure .none
  | inclusion path =>
    refine (InStepUnless.refl _).bind fun e _ he => .pure ?_
    rw [he]
    exact .some (.refl _)
  | transform name expression => exact .pure (both (some (name, expression)))
  | custom kind => exact .throw _

/-- Branches in step make a choice expand to blocks in step. -/
theorem expand_choice_inStep {chain : List String} {children children' otherwise otherwise' : List Block}
    (h : ∀ depth, InStepUnless escape Eq Eq ((c.rules loader limit).evaluate limit depth chain children)
      ((c.rules loader limit).evaluate limit depth chain children'))
    (h' : ∀ depth, InStepUnless escape Eq Eq ((c.rules loader limit).evaluate limit depth chain otherwise)
      ((c.rules loader limit).evaluate limit depth chain otherwise'))
    (depth : Nat) (condition : String) :
    InStepUnless escape Eq (Option.Rel (Expansion.Renders escape (c.rules loader limit) limit))
      (expand c loader limit depth chain (.choice condition children otherwise))
      (expand c loader limit depth chain (.choice condition children' otherwise')) := by
  refine (InStepUnless.refl _).bind fun holds _ hh => ?_
  subst hh
  cases holds with
  | true => exact .pure (.some ⟨rfl, h⟩)
  | false => exact .pure (.some ⟨rfl, h'⟩)

theorem evaluate_cons_inStep {r : Rules (StateM ω)} {depth : Nat} {chain : List String} {b b' : Block}
    {others others' : List Block}
    (hb : InStepUnless escape Eq Eq (r.evaluateBlock limit depth chain b)
      (r.evaluateBlock limit depth chain b'))
    (ho : InStepUnless escape Eq Eq (r.evaluate limit depth chain others)
      (r.evaluate limit depth chain others')) :
    InStepUnless escape Eq Eq (r.evaluate limit depth chain (b :: others))
      (r.evaluate limit depth chain (b' :: others')) := by
  simp only [Rules.evaluate]
  refine hb.bind fun first _ h => ho.bind fun rest _ h' => ?_
  rw [h, h']
  exact .refl _

/-- A block can be replaced by one in step wherever it stands. -/
theorem evaluate_replaced {old new : Block} (hblock : ∀ depth chain, InStepUnless escape Eq Eq
      ((c.rules loader limit).evaluateBlock limit depth chain old)
      ((c.rules loader limit).evaluateBlock limit depth chain new))
    {blocks blocks' : List Block} (h : Replaced old new blocks blocks') (depth : Nat)
    (chain : List String) :
    InStepUnless escape Eq Eq ((c.rules loader limit).evaluate limit depth chain blocks)
      ((c.rules loader limit).evaluate limit depth chain blocks') := by
  induction h generalizing depth with
  | here others => exact evaluate_cons_inStep (hblock depth chain) (.refl _)
  | later b rest ih => exact evaluate_cons_inStep (.refl _) (ih depth)
  | body kind others inner ih =>
    exact evaluate_cons_inStep (evaluateBlock_inStep (by simp) (by simp) (by simp) (by simp)
      (expand_directive_inStep ih (depth + 1) kind)) (.refl _)
  | first condition otherwise others inner ih =>
    exact evaluate_cons_inStep (evaluateBlock_inStep (by simp) (by simp) (by simp) (by simp)
      (expand_choice_inStep ih (fun _ => .refl _) (depth + 1) condition)) (.refl _)
  | second condition children others inner ih =>
    exact evaluate_cons_inStep (evaluateBlock_inStep (by simp) (by simp) (by simp) (by simp)
      (expand_choice_inStep (fun _ => .refl _) ih (depth + 1) condition)) (.refl _)

/-! ### Includes -/

variable {answers : String → Except Error Source} {path : String} {source : Source} {included : List Block}

/-- Where nothing listens to reports, an include that finds its template changes nothing. -/
theorem outcome_fetch (hq : c.Quiet) (found : answers path = .ok source)
    (reads : Template.parseWithin limit source.text = .ok included) (w : ω) :
    outcome (fetch c.report (Loader.ofAnswers answers) limit path) w = (.ok included, w) := by
  have hload : outcome (Loader.ofAnswers answers path : Action (StateM ω) Source) w = (.ok source, w) := by
    rw [← found]
    rfl
  have hfound : outcome (liftM (reportFound c.report source)) w = (.ok (), w) := by
    unfold reportFound
    cases source.location with
    | none => rfl
    | some location => exact hq.outcome_report _ w
  simp only [fetch, parseReported, outcome_bind, hload, hfound, reads, outcome_liftExcept, hq.outcome_report,
    outcome_pure]

/-- An include and a group around the blocks that it brings in are in step until a cycle is met. -/
theorem inclusion_inStep_group (hq : c.Quiet) (found : answers path = .ok source)
    (reads : Template.parseWithin limit source.text = .ok included) (header : String) (depth : Nat)
    (chain : List String) :
    InStepUnless IsCycle Eq Eq
      ((c.rules (some (Loader.ofAnswers answers)) limit).evaluateBlock limit depth chain
        (.directive (.inclusion path) []))
      ((c.rules (some (Loader.ofAnswers answers)) limit).evaluateBlock limit depth chain
        (.directive (.group header) included)) := by
  refine evaluateBlock_inStep (by simp) (by simp) (by simp) (by simp) ?_
  rintro w _ rfl
  by_cases hc : includeKey path ∈ chain
  · simp only [Context.rules, expand, expandInclude_of_mem c limit path _ _ hc, outcome_bind, outcome_throw]
    exact .inl ⟨_, ⟨_, _, rfl⟩, rfl⟩
  · simp only [Context.rules, expand, expandInclude_of_not_mem c limit path _ _ hc, outcome_bind,
      hq.outcome_report, outcome_fetch hq found reads, outcome_pure]
    refine .inr ⟨.ok (.some ⟨rfl, fun depth => ?_⟩), trivial⟩
    exact evaluate_of_subset c _ limit depth (List.subset_append_left _ _) included

end

section

variable {σ τ : Type}

theorem Context.Quiet.recorded {c : Context (StateM σ)} {ι : Type} (h : c.Quiet) (note : Call → σ → ι) :
    (c.recorded note : Context (StateM (World σ τ ι))).Quiet := by
  intro event w
  rw [run_report, h]

/-- An include is inlining. Replace one include by a group around the blocks that its template is read as:
unless the first render ends with a cycle, the second one has the same result, makes the same calls in the
same states, and ends in the same state. -/
theorem generate_inlined {c : Context (StateM σ)} (hq : c.Quiet) {answers : String → Except Error Source}
    {limit : Nat} {path : String} {source : Source} {included : List Block}
    (found : answers path = .ok source) (reads : Template.parseWithin limit source.text = .ok included)
    {header : String} {blocks blocks' : List Block}
    (h : Replaced (.directive (.inclusion path) []) (.directive (.group header) included) blocks blocks')
    (w : World σ τ (Call × σ)) :
    let render (template : List Block) :=
      outcome (generate (c.recorded Prod.mk) (some (Loader.ofAnswers answers)) limit template) w
    (∀ key chain, (render blocks).1 ≠ .error (.cycle key chain)) → render blocks' = render blocks := by
  intro render noCycle
  have hw := evaluate_replaced
    (inclusion_inStep_group (hq.recorded (τ := τ) Prod.mk) found reads header) h 0 [] w w rfl
  simp only [render, generate_eq_evaluate_rules] at noCycle ⊢
  obtain ⟨e, ⟨key, chain, rfl⟩, he⟩ | ⟨hresult, hworld⟩ := hw
  · exact absurd he (noCycle key chain)
  · exact Prod.ext (alike_eq_iff.1 hresult).symm hworld.symm

end

/-- Variables as a list of bindings. A condition holds if its name is bound to `yes`. A text is the value
of its name, and to read it binds `seen` to `yes`. -/
def noticing : Context (StateM (List (String × String))) where
  evalCondition name := return (← get).lookup name == some "yes"
  evalText name := do
    let some value := (← get).lookup name | throw (.evaluation .undefinedResult name)
    modify (("seen", "yes") :: ·)
    return value
  get name := return (← get).lookup name
  set name value := modify ((name, value) :: ·)
  unset name := modify (·.filter (·.1 != name))
  report _ := return

/-- Behind a transform whose evaluation binds a variable, an include of a template that includes another one
and fails. -/
theorem noticing_inlined :
    let part := "!!% include b\n%!!\n!!% transform y: z\n%!!\n"
    let answers (path : String) : Except Error Source :=
      if path = "part" then .ok ⟨part, none⟩
      else if path = "b" then .ok ⟨"no\n", none⟩
      else .error (.notFound path "<memory>" "file not found")
    let included := [.directive (.inclusion "b") [], .directive (.transform "y" "z") []]
    let before := .directive (.transform "x" "x") [.text "a"]
    let blocks := [before, .directive (.guard "seen") [.directive (.inclusion "part") []]]
    let blocks' := [before, .directive (.guard "seen") [.directive (.group "") included]]
    let w : World _ Unit _ := ⟨[], (), []⟩
    let render (template : List Block) :=
      outcome (generate (noticing.recorded Prod.mk) (some (Loader.ofAnswers answers)) 5 template) w
    noticing.Quiet ∧ Template.parseWithin 5 part = .ok included ∧
      (∀ key chain, (render blocks).1 ≠ .error (.cycle key chain)) ∧ render blocks' = render blocks := by
  intro part answers included before blocks blocks' w render
  have hq : noticing.Quiet := fun _ _ => rfl
  have found : answers "part" = .ok ⟨part, none⟩ := if_pos rfl
  have reads : Template.parseWithin 5 part = .ok included := by cbv
  have hresult : (render blocks).1 = .error (.evaluation .undefinedResult "z") := by
    simp only [render, w, blocks, before, answers]
    cbv
  have noCycle : ∀ key chain, (render blocks).1 ≠ .error (.cycle key chain) := by
    intro key chain
    rw [hresult]
    simp
  refine ⟨hq, reads, noCycle, ?_⟩
  exact generate_inlined hq found reads (.later before (.body (.guard "seen") [] (.here []))) w noCycle

end Stencil.Render
