import Stencil.Proofs.Render.Including
import Stencil.Proofs.Template.Descent

/-!
# The states of a render

A render goes from stack to stack until a step gives its output or fails. Main statements: what a step has
done that leads to another stack, what a step has met that fails, and that a render fails only where one of
its states has a step that fails so.
-/
namespace Stencil.Render

open Template (Block Directive bind_eq_ok bind_eq_error)

section

variable {ω : Type} (c : Context (StateM ω)) (loader : Option (Loader (StateM ω))) {limit : Nat}

/-! ### A step by what comes next -/

/-- The outcome of the top frame's end, where its output comes to `text`. -/
def Stack.closed (s : Stack limit) (text : String) : Outcome s :=
  match hr : s.rest with
  | [] => .done text
  | f :: rest => .more (s.pop f rest hr text) (s.pop_smaller f rest hr text)

section

variable (s : Stack limit)

theorem step_of_nil (hb : s.top.blocks = []) :
    step c loader s
      = (c.rules loader limit).finish s.top.transform s.top.output >>= fun text => pure (s.closed text) := by
  obtain ⟨⟨blocks, depth, chain, transform, output⟩, rest, nested, top_le⟩ := s
  cases hb
  rw [← rules_step]
  cases rest <;> rfl

theorem step_of_text {content : String} {others : List Block} (hb : s.top.blocks = .text content :: others) :
    step c loader s = pure (s.advanced hb content) := by
  obtain ⟨⟨blocks, depth, chain, transform, output⟩, rest, nested, top_le⟩ := s
  cases hb
  rfl

theorem step_of_foreign {value : Template.Foreign} {others : List Block} (hb : s.top.blocks = .foreign value :: others) :
    step c loader s = throw (.unsupported value.kind (some "unknown block type")) := by
  obtain ⟨⟨blocks, depth, chain, transform, output⟩, rest, nested, top_le⟩ := s
  cases hb
  rfl

theorem step_of_block {b : Block} {others : List Block} (hb : s.top.blocks = b :: others)
    (ht : ∀ content, b ≠ .text content) (hf : ∀ value, b ≠ .foreign value) :
    step c loader s =
      if hd : s.top.depth < limit then do
        match ← expand c loader limit (s.top.depth + 1) s.top.chain b with
        | none => return s.advanced hb ""
        | some e => return s.pushed hb hd e.blocks e.chain e.transform
      else throw (.tooDeep limit "generating output") := by
  obtain ⟨⟨blocks, depth, chain, transform, output⟩, rest, nested, top_le⟩ := s
  cases hb
  cases b with
  | text content => exact absurd rfl (ht content)
  | foreign value => exact absurd rfl (hf value)
  | directive | choice => rfl

end

/-- What conditions, transforms and includes keep of a state, steps keep. -/
theorem step_keeping {P : ω → Prop} {c : Context (StateM ω)} {loader : Option (Loader (StateM ω))}
    (hcondition : ∀ expression, (Coupling.keeping P).Acts (c.evalCondition expression) (c.evalCondition expression))
    (htransform : ∀ name expression body, (Coupling.keeping P).Acts (c.valuation.transform name expression body)
      (c.valuation.transform name expression body))
    (hinclude : ∀ path depth chain, (Coupling.keeping P).Acts (includedBlocks c.report loader limit path depth chain)
      (includedBlocks c.report loader limit path depth chain)) (s : Stack limit) :
    (Coupling.keeping P).Acts (step c loader s) (step c loader s) := by
  cases hb : s.top.blocks with
  | nil =>
    rw [step_of_nil c loader s hb]
    refine .bind ?_ fun text => .pure _
    cases s.top.transform with
    | none => exact .pure _
    | some p =>
      change (Coupling.keeping P).Acts (applyTransform c p.1 p.2 _) (applyTransform c p.1 p.2 _)
      rw [applyTransform_eq]
      exact htransform p.1 p.2 _
  | cons b others =>
    cases b with
    | text content =>
      rw [step_of_text c loader s hb]
      exact .pure _
    | foreign value =>
      rw [step_of_foreign c loader s hb]
      exact .throw _
    | directive | choice =>
      rw [step_of_block c loader s hb (by simp) (by simp)]
      split
      · refine (Coupling.Acts.expand hcondition hinclude _ _ _).bind fun e => ?_
        cases e with
        | none => exact .pure _
        | some => exact .pure _
      · exact .throw _

/-! ### Steps that go on -/

/-- What a block may expand to while the templates of `chain` are included. -/
inductive Expansion.Of (chain : List String) : Block → Expansion → Prop
  | group (header : String) (children : List Block) :
      Of chain (.directive (.group header) children) ⟨children, chain, none⟩
  | guard (condition : String) (children : List Block) :
      Of chain (.directive (.guard condition) children) ⟨children, chain, none⟩
  | transform (name expression : String) (children : List Block) :
      Of chain (.directive (.transform name expression) children) ⟨children, chain, some (name, expression)⟩
  | first (condition : String) (children otherwise : List Block) :
      Of chain (.choice condition children otherwise) ⟨children, chain, none⟩
  | second (condition : String) (children otherwise : List Block) :
      Of chain (.choice condition children otherwise) ⟨otherwise, chain, none⟩
  | inclusion {path : String} (children included : List Block) (fresh : includeKey path ∉ chain) :
      Of chain (.directive (.inclusion path) children) ⟨included, chain ++ [includeKey path], none⟩

/-- What a step from `s` in `w` can lead to. -/
inductive Stack.Moves (s : Stack limit) (w : ω) : Stack limit → ω → Prop
  | wrote {content : String} {blocks : List Block} (next : s.top.blocks = .text content :: blocks) :
      Moves s w (s.advance blocks content) w
  | passed {b : Block} {blocks : List Block} {w' : ω} (next : s.top.blocks = b :: blocks)
      (room : s.top.depth < limit)
      (nothing : outcome (expand c loader limit (s.top.depth + 1) s.top.chain b) w = (.ok none, w')) :
      Moves s w (s.advance blocks "") w'
  | opened {b : Block} {blocks : List Block} {e : Expansion} {w' : ω} (next : s.top.blocks = b :: blocks)
      (room : s.top.depth < limit)
      (expands : outcome (expand c loader limit (s.top.depth + 1) s.top.chain b) w = (.ok (some e), w')) :
      Moves s w (s.push blocks room e.blocks e.chain e.transform) w'
  | closed {f : Frame} {rest : List Frame} {text : String} {w' : ω} (next : s.top.blocks = [])
      (below : s.rest = f :: rest)
      (finishes : outcome ((c.rules loader limit).finish s.top.transform s.top.output) w = (.ok text, w')) :
      Moves s w (s.pop f rest below text) w'

variable {c loader}

theorem of_expand {depth : Nat} {chain : List String} {b : Block} {e : Expansion} {w w' : ω}
    (h : outcome (expand c loader limit depth chain b) w = (.ok (some e), w')) : e.Of chain b := by
  cases b with
  | text content => cases h
  | foreign value => cases h
  | choice condition children otherwise =>
    obtain ⟨holds, w₁, -, h⟩ := outcome_bind_eq_ok h
    cases holds <;> cases h
    · exact .second condition children otherwise
    · exact .first condition children otherwise
  | directive kind children =>
    cases kind with
    | group header =>
      cases h
      exact .group header children
    | guard condition =>
      obtain ⟨holds, w₁, -, h⟩ := outcome_bind_eq_ok h
      cases holds <;> cases h
      exact .guard condition children
    | inclusion path =>
      obtain ⟨e', w₁, h', h⟩ := outcome_bind_eq_ok h
      cases h
      cases loader with
      | none => cases h'
      | some load =>
        by_cases hmem : includeKey path ∈ chain
        · rw [expandInclude_of_mem c limit path depth load hmem] at h'
          cases h'
        · rw [expandInclude_of_not_mem c limit path depth load hmem] at h'
          obtain ⟨-, w₂, -, h'⟩ := outcome_bind_eq_ok h'
          obtain ⟨included, w₃, -, h'⟩ := outcome_bind_eq_ok h'
          cases h'
          exact .inclusion children included hmem
    | transform name expression =>
      cases h
      exact .transform name expression children
    | custom kind => cases h

theorem Stack.moves_of_step {s s' : Stack limit} {smaller : s'.Smaller s} {w w' : ω}
    (h : outcome (step c loader s) w = (.ok (.more s' smaller), w')) : s.Moves c loader w s' w' := by
  rw [← rules_step, Rules.step] at h
  split at h
  · rename_i next
    obtain ⟨text, w₁, finishes, h⟩ := outcome_bind_eq_ok h
    split at h
    · cases h
    · rename_i f rest below
      cases h
      exact .closed next below finishes
  · rename_i next
    cases h
    exact .wrote next
  · cases h
  · rename_i next
    split at h
    · rename_i room
      obtain ⟨expansion, w₁, expands, h⟩ := outcome_bind_eq_ok h
      cases expansion with
      | none =>
        cases h
        exact .passed next room expands
      | some e =>
        cases h
        exact .opened next room expands
    · cases h

/-! ### The states of a render -/

/-- The directives that are open after a step from `s` to `s'`, innermost first, if before it those of
`opened` are. -/
def Stack.openAfter (s s' : Stack limit) (opened : List Block) : List Block :=
  if s.rest.length < s'.rest.length then s.top.blocks.take 1 ++ opened
  else if s'.rest.length < s.rest.length then opened.tail
  else opened

@[simp] theorem Stack.openAfter_advance (s : Stack limit) (blocks : List Block) (text : String)
    (opened : List Block) : s.openAfter (s.advance blocks text) opened = opened := by
  simp [openAfter, advance]

@[simp] theorem Stack.openAfter_push {s : Stack limit} {b : Block} {blocks : List Block}
    (next : s.top.blocks = b :: blocks) (room : s.top.depth < limit) (children : List Block)
    (chain : List String) (transform : Option (String × String)) (opened : List Block) :
    s.openAfter (s.push blocks room children chain transform) opened = b :: opened := by
  simp [openAfter, push, next]

@[simp] theorem Stack.openAfter_pop {s : Stack limit} {f : Frame} {rest : List Frame}
    (below : s.rest = f :: rest) (text : String) (opened : List Block) :
    s.openAfter (s.pop f rest below text) opened = opened.tail := by
  have hlen : ¬ rest.length + 1 < rest.length := by omega
  simp [openAfter, pop, below, hlen]

variable (c loader) in
/-- The states that the render of `blocks` from `w₀` gets to, with the directives that are open there,
innermost first. -/
inductive Reached (blocks : List Block) (w₀ : ω) : List Block → Stack limit → ω → Prop
  | start : Reached blocks w₀ [] (Stack.start limit blocks) w₀
  | step {opened : List Block} {s s' : Stack limit} {smaller : s'.Smaller s} {w w' : ω}
      (before : Reached blocks w₀ opened s w)
      (steps : outcome (Render.step c loader s) w = (.ok (.more s' smaller), w')) :
      Reached blocks w₀ (s.openAfter s' opened) s' w'

/-- What every step keeps of a state holds of each state that a render gets to. -/
theorem Reached.keeps {P : ω → Prop}
    (hstep : ∀ s : Stack limit, (Coupling.keeping P).Acts (Render.step c loader s) (Render.step c loader s))
    {blocks opened : List Block} {w₀ w : ω} {s : Stack limit} (h : Reached c loader blocks w₀ opened s w) (h₀ : P w₀) :
    P w := by
  induction h with
  | start => exact h₀
  | @step opened s s' smaller w w' before steps ih =>
    have hkept : P (outcome (Render.step c loader s) w).2 := hstep s w ih
    rwa [steps] at hkept

/-- A render fails where a step does. -/
theorem exists_failing_step {blocks : List Block} {w₀ w₁ : ω} {e : Error}
    (h : outcome (generate c loader limit blocks) w₀ = (.error e, w₁)) :
    ∃ (opened : List Block) (s : Stack limit) (w : ω), Reached c loader blocks w₀ opened s w ∧
      outcome (step c loader s) w = (.error e, w₁) := by
  suffices ∀ (s : Stack limit) (opened : List Block) (w : ω), Reached c loader blocks w₀ opened s w →
      outcome (run c loader s) w = (.error e, w₁) →
      ∃ (opened : List Block) (s : Stack limit) (w : ω), Reached c loader blocks w₀ opened s w ∧
        outcome (step c loader s) w = (.error e, w₁) from this _ _ _ .start h
  intro s
  -- What comes before a state is kept in `Reached`, so the induction is on what is left to do from there.
  induction s using (InvImage.wf Stack.work (Work.order limit).wf).induction with
  | _ s ih =>
    intro opened w reached hrun
    rw [run, outcome_bind] at hrun
    rcases hstep : outcome (step c loader s) w with ⟨result, w'⟩
    rw [hstep] at hrun
    cases result with
    | error e' =>
      cases hrun
      exact ⟨opened, s, w, reached, hstep⟩
    | ok next =>
      cases next with
      | done output => cases hrun
      | more s' smaller => exact ih s' smaller _ w' (reached.step hstep) hrun

end

/-! ### Steps that fail -/

section

variable {σ τ : Type} (c : Context (StateM σ))

/-- In the state `s` the call fails with `e`. -/
def Context.FailsWith (e : Error) (s : σ) : Call → Prop
  | .condition expression => (outcome (c.evalCondition expression) s).1 = .error e
  | .text expression => (outcome (c.evalText expression) s).1 = .error e
  | .get name => (outcome (c.get name) s).1 = .error e
  | .set name value => (outcome (c.set name value) s).1 = .error e
  | .unset name => (outcome (c.unset name) s).1 = .error e

/-- One of the calls up to `w` failed with `e`. -/
def CallFailed (e : Error) (w : World σ τ (Call × σ)) : Prop :=
  ∃ call s, (call, s) ∈ w.log ∧ c.FailsWith e s call

/-- At `s` an include comes next, and asked for its text the loader answers so. -/
inductive Stack.Asks {limit : Nat} (load : Loader (StateM τ)) (s : Stack limit)
    (w : World σ τ (Call × σ)) : Except Error Source → Prop
  | intro {path : String} {children blocks : List Block}
      (next : s.top.blocks = .directive (.inclusion path) children :: blocks) :
      Asks load s w (outcome (load path) w.supply).1

/-- What a step from `s` in `w` can fail with. It ends in `w'`. -/
inductive Stack.Fails {limit : Nat} (loader : Option (Loader (StateM τ))) (s : Stack limit)
    (w w' : World σ τ (Call × σ)) : Error → Prop
  | unsupported (kind : String) (detail : Option String) : Fails loader s w w' (.unsupported kind detail)
  | tooDeep {b : Block} {blocks : List Block} (next : s.top.blocks = b :: blocks)
      (text : ∀ content, b ≠ .text content) (foreign : ∀ value, b ≠ .foreign value)
      (full : limit ≤ s.top.depth) : Fails loader s w w' (.tooDeep limit "generating output")
  | cycle {path : String} {children blocks : List Block}
      (next : s.top.blocks = .directive (.inclusion path) children :: blocks)
      (included : includeKey path ∈ s.top.chain) : Fails loader s w w' (.cycle (includeKey path) s.top.chain)
  | unread {load : Loader (StateM τ)} {source : Source} {e : Error} (given : loader = some load)
      (loaded : s.Asks load w (.ok source)) (flawed : Template.parseWithin limit source.text = .error e) :
      Fails loader s w w' e
  | unloaded {load : Loader (StateM τ)} {e : Error} (given : loader = some load)
      (missing : s.Asks load w (.error e)) : Fails loader s w w' e
  | call {e : Error} (failed : CallFailed c e w') : Fails loader s w w' e

variable {c} {limit : Nat} {w w' : World σ τ (Call × σ)} {e : Error}

theorem CallFailed.mono (h : CallFailed c e w) (hlog : w.log ⊆ w'.log) : CallFailed c e w' := by
  obtain ⟨call, s, hmem, hfails⟩ := h
  exact ⟨call, s, hlog hmem, hfails⟩

theorem callFailed_of_ask {α : Type} {x : Action (StateM σ) α} (call : Call)
    (hcall : ∀ s, (outcome x s).1 = .error e → c.FailsWith e s call)
    (h : outcome (ask x (Prod.mk call)) w = (.error e, w')) : CallFailed c e w' := by
  rw [outcome_ask] at h
  obtain ⟨he, rfl⟩ := Prod.ext_iff.1 h
  exact ⟨call, w.state, by simp, hcall _ he⟩

theorem callFailed_of_rebind {name : String} {former : Option String}
    (h : outcome ((c.recorded Prod.mk).rebind name former) w = (.error e, w')) : CallFailed c e w' := by
  cases former with
  | none => exact callFailed_of_ask (.unset name) (fun _ he => he) h
  | some value => exact callFailed_of_ask (.set name value) (fun _ he => he) h

theorem log_subset_of_rebind {name : String} {former : Option String} {r : Except Error Unit}
    (h : outcome ((c.recorded Prod.mk).rebind name former) w = (r, w')) : w.log ⊆ w'.log := by
  cases former <;>
  · obtain ⟨-, rfl⟩ := Prod.ext_iff.1 h
    exact List.subset_append_left _ _

/-- A transform fails with what one of its calls fails with. -/
theorem callFailed_of_transform {name expression body : String}
    (h : outcome (applyTransform (c.recorded Prod.mk) name expression body) w = (.error e, w')) :
    CallFailed c e w' := by
  rw [applyTransform_eq] at h
  obtain h | ⟨former, w₁, -, h⟩ := outcome_bind_eq_error h
  · exact callFailed_of_ask (.get name) (fun _ he => he) h
  obtain h | ⟨-, w₂, -, h⟩ := outcome_bind_eq_error h
  · exact callFailed_of_ask (.set name body) (fun _ he => he) h
  obtain h | ⟨text, w₃, -, h⟩ := outcome_bind_eq_error h
  · rw [outcome_ensuring] at h
    split at h
    · rename_i hrebind
      obtain ⟨he, rfl⟩ := Prod.ext_iff.1 h
      exact (callFailed_of_ask (.text expression) (fun _ he => he) (Prod.ext he rfl)).mono
        (log_subset_of_rebind hrebind)
    · rename_i hrebind
      cases h
      exact callFailed_of_rebind hrebind
  · obtain h | ⟨-, w₄, -, h⟩ := outcome_bind_eq_error h
    · cases h
    · cases h

/-- What an include comes to: the blocks that its text is read as, if the loader has the text. -/
theorem expandInclude_fst (c : Context (StateM σ)) (load : Loader (StateM τ)) (limit : Nat) (path : String)
    (depth : Nat) (chain : List String) (w : World σ τ (Call × σ)) :
    (outcome (expandInclude (c.recorded Prod.mk) (some load.supplied) limit path depth chain) w).1 =
      if includeKey path ∈ chain then .error (.cycle (includeKey path) chain)
      else do
        let source ← (outcome (load path) w.supply).1
        let blocks ← Template.parseWithin limit source.text
        return ⟨blocks, chain ++ [includeKey path], none⟩ := by
  split
  · rename_i hmem
    rw [expandInclude_of_mem _ _ _ _ _ hmem, outcome_throw]
  · rename_i hmem
    rw [expandInclude_of_not_mem _ _ _ _ _ hmem]
    simp only [fetch, parseReported, outcome_bind, outcome_liftM, run_report, outcome_supplied,
      outcome_liftExcept]
    cases (outcome (load path) w.supply).1 with
    | error e => rfl
    | ok source =>
      cases hread : Template.parseWithin limit source.text with
      | error e => simp only [hread, bind, Except.bind]
      | ok blocks =>
        simp only [hread, bind, Except.bind]
        rfl

theorem loaded_of_expandInclude {loader : Option (Loader (StateM τ))} {path : String} {depth : Nat}
    {chain : List String} {expansion : Expansion}
    (h : outcome (expandInclude (c.recorded Prod.mk) (loader.map Loader.supplied) limit path depth chain) w
      = (.ok expansion, w')) :
    ∃ load source, loader = some load ∧ (outcome (load path) w.supply).1 = .ok source ∧
      Template.parseWithin limit source.text = .ok expansion.blocks := by
  cases loader with
  | none => cases h
  | some load =>
    have hresult := expandInclude_fst c load limit path depth chain w
    simp only [Option.map_some] at h
    rw [h] at hresult
    split at hresult
    · cases hresult
    · obtain ⟨source, hload, hresult⟩ := bind_eq_ok.1 hresult.symm
      obtain ⟨included, hread, hresult⟩ := bind_eq_ok.1 hresult
      cases hresult
      exact ⟨load, source, rfl, hload, hread⟩

/-- An include that fails is one of its own template, or its text is not found or not read. -/
theorem fails_of_expandInclude {loader : Option (Loader (StateM τ))} {s : Stack limit} {path : String}
    {children blocks : List Block} (next : s.top.blocks = .directive (.inclusion path) children :: blocks)
    {depth : Nat} (h : outcome (expandInclude (c.recorded Prod.mk) (loader.map Loader.supplied) limit path depth
      s.top.chain) w = (.error e, w')) : s.Fails c loader w w' e := by
  cases loader with
  | none =>
    cases h
    exact .unsupported _ _
  | some load =>
    have hresult := expandInclude_fst c load limit path depth s.top.chain w
    simp only [Option.map_some] at h
    rw [h] at hresult
    split at hresult
    · rename_i included
      cases hresult
      exact .cycle next included
    · have asks : s.Asks load w (outcome (load path) w.supply).1 := .intro next
      obtain hload | ⟨source, hload, hresult⟩ := bind_eq_error.1 hresult.symm
      · exact .unloaded rfl (hload ▸ asks)
      · obtain hread | ⟨included, -, hresult⟩ := bind_eq_error.1 hresult
        · exact .unread rfl (hload ▸ asks) hread
        · cases hresult

/-- Where a block is not expanded, it has no meaning, or what is asked for its sake fails. -/
theorem fails_of_expand {loader : Option (Loader (StateM τ))} {s : Stack limit} {b : Block}
    {blocks : List Block} (next : s.top.blocks = b :: blocks)
    (h : outcome (expand (c.recorded Prod.mk) (loader.map Loader.supplied) limit (s.top.depth + 1) s.top.chain b)
      w = (.error e, w')) : s.Fails c loader w w' e := by
  cases b with
  | text content => cases h
  | foreign value =>
    cases h
    exact .unsupported _ _
  | choice condition children otherwise =>
    obtain h | ⟨holds, w₁, -, h⟩ := outcome_bind_eq_error h
    · exact .call (callFailed_of_ask (.condition condition) (fun _ he => he) h)
    · cases h
  | directive kind children =>
    cases kind with
    | group header => cases h
    | guard condition =>
      obtain h | ⟨holds, w₁, -, h⟩ := outcome_bind_eq_error h
      · exact .call (callFailed_of_ask (.condition condition) (fun _ he => he) h)
      · cases holds <;> cases h
    | inclusion path =>
      obtain h | ⟨e', w₁, -, h⟩ := outcome_bind_eq_error h
      · exact fails_of_expandInclude next h
      · cases h
    | transform name expression => cases h
    | custom kind =>
      cases h
      exact .unsupported _ _

/-- What a step fails with. -/
theorem fails_of_step {loader : Option (Loader (StateM τ))} {s : Stack limit}
    (h : outcome (step (c.recorded Prod.mk) (loader.map Loader.supplied) s) w = (.error e, w')) :
    s.Fails c loader w w' e := by
  rw [← rules_step, Rules.step] at h
  split at h
  · obtain h | ⟨text, w₁, -, h⟩ := outcome_bind_eq_error h
    · cases htransform : s.top.transform with
      | none =>
        rw [htransform] at h
        cases h
      | some p =>
        rw [htransform] at h
        exact .call (callFailed_of_transform h)
    · split at h <;> cases h
  · cases h
  · cases h
    exact .unsupported _ _
  · rename_i text foreign next
    split at h
    · obtain h | ⟨expansion, w₁, -, h⟩ := outcome_bind_eq_error h
      · exact fails_of_expand next h
      · cases expansion <;> cases h
    · rename_i full
      cases h
      exact .tooDeep next text foreign (Nat.le_of_not_lt full)

end

/-- The render of `blocks` from `w₀` fails in `w'` with what it was answered: a call of the context failed with
`e`, or the loader did when it was asked for the text of an include. -/
def PassedOn {σ τ : Type} (c : Context (StateM σ)) (loader : Option (Loader (StateM τ))) (limit : Nat)
    (blocks : List Block) (w₀ w' : World σ τ (Call × σ)) (e : Error) : Prop :=
  CallFailed c e w' ∨ ∃ (opened : List Block) (s : Stack limit) (w : World σ τ (Call × σ)) (load : _),
    Reached (c.recorded Prod.mk) (loader.map Loader.supplied) blocks w₀ opened s w ∧
      outcome (step (c.recorded Prod.mk) (loader.map Loader.supplied) s) w = (.error e, w') ∧
      loader = some load ∧ s.Asks load w (.error e)

end Stencil.Render
