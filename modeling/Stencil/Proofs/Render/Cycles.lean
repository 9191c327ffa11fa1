import Mathlib
import Stencil.Proofs.Render.Scoping
import Stencil.Proofs.Render.Stepping
import Stencil.Proofs.Render.Unchecked

/-!
# What the search for cycles does

A template inside itself is an error of its own. Without that error such a template goes on including
itself, one directive deeper each time, as nothing that decides its course has changed: the bindings are
those from before, and all spellings of a path bring in the same blocks. Main statement: without the search
for cycles a render differs only where it found one, and there it fails for its depth.
-/
namespace Stencil.Render

open Template (Block Directive)

/-! ### Blocks that sink -/

section

variable {ω : Type} (c : Context (StateM ω)) (S : ω → Prop)
  (answers : Option (String → Except Error Source)) (limit : Nat)

/-- Without the search, the blocks are too deep in every world of `S`. -/
def Sinks (depth : Nat) (blocks : List Block) : Prop :=
  ∀ chain w, S w →
    (outcome ((c.rulesUnchecked (answers.map Loader.ofAnswers) limit).evaluate limit depth chain blocks) w).1
      = .error (.tooDeep limit "generating output")

/-- All paths with this key bring in these blocks. -/
def Spells (key : String) (blocks : List Block) : Prop :=
  ∀ path, includeKey path = key → ∃ load source, answers = some load ∧ load path = .ok source ∧
    Template.parseWithin limit source.text = .ok blocks

/-- The templates of `chain` are being included: each began at some lower depth, and it sinks if what is
ahead at `depth` does, wherever both may be moved to. -/
def UnderWay (chain : List String) (depth : Nat) (blocks : List Block) : Prop :=
  ∀ key ∈ chain, ∃ begun included, begun ≤ depth ∧ Spells answers limit key included ∧
    ∀ j, Sinks c S answers limit (depth + j) blocks → Sinks c S answers limit (begun + j) included

variable {c S answers limit}

theorem Sinks.cons {depth : Nat} {b : Block} (h : Sinks c S answers limit depth [b]) (bs : List Block) :
    Sinks c S answers limit depth (b :: bs) := by
  intro chain w hw
  rw [Rules.evaluate_cons]
  exact outcome_bind_of_error (h chain w hw) _

/-- What follows a block that has an output at a lower depth may sink. -/
theorem Sinks.later (hc : c.Settled S) {depth depth' : Nat} (hle : depth ≤ depth') {chain : List String}
    {b : Block} {w : ω} (hw : S w) {first : String}
    (hfirst : (outcome ((c.rulesUnchecked (answers.map Loader.ofAnswers) limit).evaluate limit depth chain
      [b]) w).1 = .ok first)
    {bs : List Block} (h : Sinks c S answers limit depth' bs) : Sinks c S answers limit depth' (b :: bs) := by
  intro chain' w' hw'
  rw [Rules.evaluate_cons]
  obtain ⟨e, rfl, he⟩ | ⟨hr, hv, -⟩ := evaluate_deeper hc answers hle chain' chain [b] w' w ⟨hw', hw⟩
  · exact outcome_bind_of_error he _
  · rw [hfirst, alike_eq_iff] at hr
    rw [outcome_bind_of_ok (Prod.ext hr rfl)]
    exact outcome_bind_of_error (h chain' _ hv) _

/-- A block sinks if the blocks that it expands to do. -/
theorem Sinks.of_expansion (hc : c.Settled S) {b : Block} {e : Expansion} {w w₁ : ω} {d : Nat}
    {chain : List String} (hw : S w)
    (he : outcome (expandUnchecked c (answers.map Loader.ofAnswers) limit d chain b) w = (.ok (some e), w₁))
    {depth : Nat} (h : depth < limit → Sinks c S answers limit (depth + 1) e.blocks) :
    Sinks c S answers limit depth [b] := by
  intro chain' w' hw'
  have ht : ∀ content, b ≠ .text content := by
    rintro content rfl
    cases he
  have hf : ∀ value, b ≠ .foreign value := by
    rintro kind rfl
    cases he
  rw [Rules.evaluate_singleton, Rules.evaluateBlock_eq _ _ _ _ ht hf]
  split
  · rename_i hd
    have hstep := expandUnchecked_settled hc answers (fun _ => False) limit (depth + 1) d chain' chain b w' w
      ⟨hw', hw⟩
    change (outcome (expandUnchecked c (answers.map Loader.ofAnswers) limit (depth + 1) chain' b >>= _)
      w').1 = _
    rcases ho : outcome (expandUnchecked c (answers.map Loader.ofAnswers) limit (depth + 1) chain' b) w'
      with ⟨r, w₁'⟩
    rw [ho, he] at hstep
    obtain ⟨_, hfalse, -⟩ | ⟨hr, hv, -⟩ := hstep
    · exact hfalse.elim
    · cases hr with
      | ok values =>
        obtain ⟨hblocks, -, -⟩ := values
        rw [outcome_bind_of_ok ho]
        exact outcome_bind_of_error (hblocks ▸ h hd _ _ hv) _
  · rfl

/-- What an include expands to where its template is known. -/
theorem expandUnchecked_inclusion {path : String} {included : List Block}
    (spells : Spells answers limit (includeKey path) included) (depth : Nat) (chain : List String)
    (children : List Block) (w : ω) :
    ∃ e w₁, e.blocks = included ∧ outcome (expandUnchecked c (answers.map Loader.ofAnswers) limit depth chain
      (.directive (.inclusion path) children)) w = (.ok (some e), w₁) := by
  obtain ⟨load, source, rfl, hload, hreads⟩ := spells path rfl
  have hsource (w : ω) :
      outcome (Loader.ofAnswers load path : Action (StateM ω) Source) w = (.ok source, w) := by
    rw [← hload]
    rfl
  refine ⟨⟨included, chain ++ ([] ++ [includeKey path]), none⟩, ?_⟩
  simp only [expandUnchecked, expand, Option.map_some,
    expandInclude_of_not_mem c limit path depth _ List.not_mem_nil, fetch, parseReported, outcome_bind, outcome_liftM,
    hsource, hreads, outcome_liftExcept, outcome_pure]
  exact ⟨_, trivial, rfl⟩

/-- An include of a template that is under way sinks: it brings the template in once more, one deeper at
least, and there the same include is met again. -/
theorem sinks_of_replay (hc : c.Settled S) {w : ω} (hw : S w) {path : String} {children included : List Block}
    (spells : Spells answers limit (includeKey path) included) {begun depth : Nat} (hle : begun ≤ depth)
    (hway : ∀ j, Sinks c S answers limit (depth + j) [.directive (.inclusion path) children] →
      Sinks c S answers limit (begun + j) included) (j : Nat) :
    Sinks c S answers limit (depth + j) [.directive (.inclusion path) children] := by
  induction hn : limit - (depth + j) using Nat.strongRecOn generalizing j with
  | ind n ih =>
    obtain ⟨e, w₁, rfl, he⟩ := expandUnchecked_inclusion (c := c) spells 0 [] children w
    refine Sinks.of_expansion hc hw he fun hd => ?_
    have again := hway (depth + 1 - begun + j) (ih _ (by omega) _ rfl)
    rwa [show begun + (depth + 1 - begun + j) = depth + j + 1 by omega] at again

end

/-! ### Cycles that are found -/

section

variable {ω α β : Type}

/-- The action fails with a cycle. -/
def MeetsCycle (x : Action (StateM ω) α) (w : ω) : Prop := ∃ e, IsCycle e ∧ (outcome x w).1 = .error e

theorem not_meetsCycle_pure (a : α) (w : ω) : ¬ MeetsCycle (pure a : Action (StateM ω) α) w := by
  rintro ⟨e, -, he⟩
  cases he

theorem meetsCycle_bind {x : Action (StateM ω) α} {f : α → Action (StateM ω) β} {w : ω}
    (h : MeetsCycle (x >>= f) w) :
    MeetsCycle x w ∨ ∃ a w', outcome x w = (.ok a, w') ∧ MeetsCycle (f a) w' := by
  obtain ⟨e, hcycle, he⟩ := h
  obtain hx | ⟨a, w', hx, hf⟩ := outcome_bind_eq_error (Prod.ext he rfl)
  · exact .inl ⟨e, hcycle, by rw [hx]⟩
  · exact .inr ⟨a, w', hx, e, hcycle, by rw [hf]⟩

theorem not_meetsCycle_throw {e : Error} (h : ¬ IsCycle e) (w : ω) :
    ¬ MeetsCycle (throw e : Action (StateM ω) α) w := by
  rintro ⟨e', hcycle, he⟩
  cases he
  exact h hcycle

/-- Evaluating does not fail with a cycle. -/
structure Context.CycleFree (c : Context (StateM ω)) : Prop where
  condition (expression : String) (w : ω) : ¬ MeetsCycle (c.evalCondition expression) w
  transform (name expression body : String) (w : ω) : ¬ MeetsCycle (applyTransform c name expression body) w

/-- Paths with one key bring in one text, or none of them brings in any. -/
def KeyedByPath (load : String → Except Error Source) : Prop :=
  ∀ path path', includeKey path = includeKey path' →
    (load path).toOption.map Source.text = (load path').toOption.map Source.text

variable {c : Context (StateM ω)} {S : ω → Prop} {answers : Option (String → Except Error Source)}
  (hfree : c.CycleFree) (hanswers : ∀ load ∈ answers, ∀ path e, load path = .error e → ¬ IsCycle e)
  {limit depth : Nat} {chain : List String}

include hanswers in
theorem not_meetsCycle_fetch {load : String → Except Error Source} (hload : answers = some load)
    (path : String) (w : ω) :
    ¬ MeetsCycle (fetch c.report (Loader.ofAnswers load) limit path) w := by
  intro h
  obtain ⟨e, hcycle, he⟩ | ⟨source, w₁, -, h⟩ := meetsCycle_bind h
  · exact hanswers load hload path e he hcycle
  obtain ⟨e, hcycle, he⟩ | ⟨-, w₂, -, h⟩ := meetsCycle_bind h
  · rw [outcome_liftM] at he
    cases he
  obtain ⟨e, hcycle, he⟩ | ⟨blocks, w₃, -, h⟩ := meetsCycle_bind h
  · rw [outcome_liftExcept] at he
    exact not_isCycle_of_parseWithin he hcycle
  obtain ⟨e, hcycle, he⟩ | ⟨-, w₄, -, h⟩ := meetsCycle_bind h
  · rw [outcome_liftM] at he
    cases he
  · exact not_meetsCycle_pure _ _ h

include hfree hanswers in
/-- Only an include of a template on the chain is found to be a cycle. -/
theorem mem_chain_of_meetsCycle {b : Block} {w : ω}
    (h : MeetsCycle (expand c (answers.map Loader.ofAnswers) limit depth chain b) w) :
    ∃ path children, b = .directive (.inclusion path) children ∧ includeKey path ∈ chain := by
  cases b with
  | text content => exact absurd h (not_meetsCycle_pure _ _)
  | foreign value => exact absurd h (not_meetsCycle_throw (by simp [IsCycle]) _)
  | choice condition children otherwise =>
    obtain h | ⟨holds, w₁, -, h⟩ := meetsCycle_bind h
    · exact absurd h (hfree.condition condition w)
    · exact absurd h (not_meetsCycle_pure _ _)
  | directive kind children =>
    cases kind with
    | group header => exact absurd h (not_meetsCycle_pure _ _)
    | guard condition =>
      obtain h | ⟨holds, w₁, -, h⟩ := meetsCycle_bind h
      · exact absurd h (hfree.condition condition w)
      · exact absurd h (not_meetsCycle_pure _ _)
    | inclusion path =>
      refine ⟨path, children, rfl, ?_⟩
      obtain h | ⟨e, w₁, -, h⟩ := meetsCycle_bind h
      · cases hload : answers with
        | none =>
          rw [hload] at h
          exact absurd h (not_meetsCycle_throw (by simp [IsCycle]) _)
        | some load =>
          by_contra hmem
          rw [hload, Option.map_some, expandInclude_of_not_mem c limit path depth _ hmem] at h
          obtain ⟨e, hcycle, he⟩ | ⟨-, w₁, -, h⟩ := meetsCycle_bind h
          · rw [outcome_liftM] at he
            cases he
          obtain h | ⟨blocks, w₂, -, h⟩ := meetsCycle_bind h
          · exact not_meetsCycle_fetch hanswers hload path w₁ h
          · exact not_meetsCycle_pure _ _ h
      · exact absurd h (not_meetsCycle_pure _ _)
    | transform name expression => exact absurd h (not_meetsCycle_pure _ _)
    | custom kind => exact absurd h (not_meetsCycle_throw (by simp [IsCycle]) _)

theorem fetch_eq_ok {load : String → Except Error Source} {path : String} {included : List Block} {w w' : ω}
    (h : outcome (fetch c.report (Loader.ofAnswers load) limit path) w = (.ok included, w')) :
    ∃ source, load path = .ok source ∧ Template.parseWithin limit source.text = .ok included := by
  obtain ⟨source, w₁, hsource, h⟩ := outcome_bind_eq_ok h
  obtain ⟨-, w₂, -, h⟩ := outcome_bind_eq_ok h
  obtain ⟨blocks, w₃, hreads, h⟩ := outcome_bind_eq_ok h
  obtain ⟨-, w₄, -, h⟩ := outcome_bind_eq_ok h
  cases h
  rw [outcome_liftExcept] at hreads
  exact ⟨source, congrArg Prod.fst hsource, congrArg Prod.fst hreads⟩

theorem KeyedByPath.spells {load : String → Except Error Source} (hkeys : KeyedByPath load) {path : String}
    {source : Source} {included : List Block} (hload : load path = .ok source)
    (hreads : Template.parseWithin limit source.text = .ok included) :
    Spells (some load) limit (includeKey path) included := by
  intro path' hkey
  have htext := hkeys path' path hkey
  rw [hload] at htext
  cases hload' : load path' with
  | error e => simp [hload', Except.toOption] at htext
  | ok source' =>
    have ht : source'.text = source.text := by simpa [hload', Except.toOption] using htext
    exact ⟨load, source', rfl, hload', ht ▸ hreads⟩

/-- Expanding leaves the chain as it is or adds the key of the template that the blocks come from. -/
theorem chain_of_expand (hkeys : ∀ load ∈ answers, KeyedByPath load) {b : Block} {e : Expansion} {w w' : ω}
    (h : outcome (expand c (answers.map Loader.ofAnswers) limit depth chain b) w = (.ok (some e), w')) :
    e.chain = chain ∨ ∃ key, e.chain = chain ++ [key] ∧ Spells answers limit key e.blocks := by
  cases of_expand h with
  | @inclusion path children included fresh =>
    obtain ⟨e', w₁, h', h⟩ := outcome_bind_eq_ok h
    cases h
    cases hload : answers with
    | none =>
      rw [hload] at h'
      cases h'
    | some load =>
      rw [hload, Option.map_some, expandInclude_of_not_mem c limit path depth _ fresh] at h'
      obtain ⟨-, w₂, -, h'⟩ := outcome_bind_eq_ok h'
      obtain ⟨included, w₃, hfetch, h'⟩ := outcome_bind_eq_ok h'
      cases h'
      obtain ⟨source, hsource, hreads⟩ := fetch_eq_ok hfetch
      exact .inr ⟨_, rfl, (hkeys load hload).spells hsource hreads⟩
  | _ => exact .inl rfl

/-! ### From a cycle to the bottom -/

/-- What is under way stays so when its rest moves on. -/
theorem UnderWay.ahead {blocks blocks' : List Block} {depth' : Nat}
    (h : UnderWay c S answers limit chain depth blocks) (hle : depth ≤ depth')
    (hsinks : ∀ j, Sinks c S answers limit (depth' + j) blocks' →
      Sinks c S answers limit (depth + j) blocks) :
    UnderWay c S answers limit chain depth' blocks' := by
  intro key hkey
  obtain ⟨begun, included, hbegun, spells, hway⟩ := h key hkey
  exact ⟨begun, included, Nat.le_trans hbegun hle, spells, fun j hj => hway j (hsinks j hj)⟩

/-- The blocks of a template are under way from where they begin. -/
theorem UnderWay.enter {blocks : List Block} {key : String}
    (h : UnderWay c S answers limit chain depth blocks) (spells : Spells answers limit key blocks) :
    UnderWay c S answers limit (chain ++ [key]) depth blocks := by
  intro key' hkey'
  obtain hkey' | hkey' := List.mem_append.1 hkey'
  · exact h key' hkey'
  · obtain rfl := List.mem_singleton.1 hkey'
    exact ⟨depth, blocks, Nat.le_refl _, spells, fun j hj => hj⟩

/-- Where the search finds no cycle, a block has the same output without it, and stays in `S`. -/
theorem outcome_unchecked (hc : c.Settled S) {b : Block} {w w' : ω} {first : String} (hw : S w)
    (h : outcome ((c.rules (answers.map Loader.ofAnswers) limit).evaluate limit depth chain [b]) w
      = (.ok first, w')) :
    (outcome ((c.rulesUnchecked (answers.map Loader.ofAnswers) limit).evaluate limit depth chain [b]) w).1
      = .ok first ∧ S w' := by
  have hchecked := evaluate_inStep_unchecked c (answers.map Loader.ofAnswers) limit depth chain [b] w w rfl
  rw [h] at hchecked
  obtain ⟨e, -, he⟩ | ⟨hr, hv⟩ := hchecked
  · cases he
  have hout := (alike_eq_iff.1 hr).symm
  refine ⟨hout, ?_⟩
  obtain ⟨e, -, he⟩ | ⟨-, hS, -⟩ := evaluate_deeper hc answers (Nat.le_refl _) chain chain [b] w w ⟨hw, hw⟩
  · rw [hout] at he
    cases he
  · change w' = _ at hv
    rw [hv]
    exact hS

/-- Where the search finds no cycle, a block expands to the same blocks without it, and stays in `S`. -/
theorem outcome_expandUnchecked (hc : c.Settled S) {b : Block} {e : Expansion} {w w' : ω} (hw : S w)
    (h : outcome (expand c (answers.map Loader.ofAnswers) limit depth chain b) w = (.ok (some e), w')) :
    (∃ e', outcome (expandUnchecked c (answers.map Loader.ofAnswers) limit depth chain b) w
      = (.ok (some e'), w') ∧ e.blocks = e'.blocks) ∧ S w' := by
  have hchecked := expand_inStep_expandUnchecked c (answers.map Loader.ofAnswers) limit depth chain b w w rfl
  have hstays :=
    expandUnchecked_settled hc answers (fun _ => False) limit depth depth chain chain b w w ⟨hw, hw⟩
  rcases hu : outcome (expandUnchecked c (answers.map Loader.ofAnswers) limit depth chain b) w with ⟨r, w₁⟩
  rw [h, hu] at hchecked
  rw [hu] at hstays
  obtain ⟨e, -, he⟩ | ⟨hr, rfl⟩ := hchecked
  · cases he
  cases hr with
  | ok values =>
    obtain ⟨hblocks, -, -⟩ := values
    obtain ⟨e, hfalse, -⟩ | ⟨-, hS, -⟩ := hstays
    · exact hfalse.elim
    · exact ⟨⟨_, rfl, hblocks⟩, hS⟩

variable (hc : c.Settled S) (hkeys : ∀ load ∈ answers, KeyedByPath load)

include hc hfree hanswers hkeys

/-- A block that meets a cycle sinks, if the blocks that it expands to sink when they meet one. -/
theorem sinks_block {b : Block}
    (deeper : depth < limit → ∀ chain blocks, UnderWay c S answers limit chain (depth + 1) blocks → ∀ w, S w →
      MeetsCycle ((c.rules (answers.map Loader.ofAnswers) limit).evaluate limit (depth + 1) chain blocks) w →
      Sinks c S answers limit (depth + 1) blocks)
    (hway : UnderWay c S answers limit chain depth [b]) {w : ω} (hw : S w)
    (h : MeetsCycle ((c.rules (answers.map Loader.ofAnswers) limit).evaluate limit depth chain [b]) w) :
    Sinks c S answers limit depth [b] := by
  rw [Rules.evaluate_singleton] at h
  have ht : ∀ content, b ≠ .text content := by
    rintro content rfl
    rw [Rules.evaluateBlock] at h
    exact not_meetsCycle_pure _ _ h
  have hf : ∀ value, b ≠ .foreign value := by
    rintro kind rfl
    rw [Rules.evaluateBlock] at h
    exact not_meetsCycle_throw (by simp [IsCycle]) _ h
  rw [Rules.evaluateBlock_eq _ _ _ _ ht hf] at h
  split at h
  · rename_i hd
    obtain h | ⟨o, w₁, ho, h⟩ := meetsCycle_bind h
    · -- The cycle is met here: the block is an include of a template on the chain.
      obtain ⟨path, children, rfl, hmem⟩ := mem_chain_of_meetsCycle hfree hanswers h
      obtain ⟨begun, included, hbegun, spells, hsinks⟩ := hway _ hmem
      exact sinks_of_replay hc hw spells hbegun hsinks 0
    · cases o with
      | none => exact absurd h (not_meetsCycle_pure _ _)
      | some e =>
        obtain ⟨⟨e', hu, hblocks⟩, hw₁⟩ := outcome_expandUnchecked hc hw ho
        have hway' : UnderWay c S answers limit chain (depth + 1) e.blocks :=
          hway.ahead (Nat.le_succ depth) fun j hj => .of_expansion hc hw hu fun _ => by
            rwa [← hblocks, Nat.add_right_comm]
        have hway'' : UnderWay c S answers limit e.chain (depth + 1) e.blocks := by
          obtain hchain | ⟨key, hchain, spells⟩ := chain_of_expand hkeys ho
          · rwa [hchain]
          · rw [hchain]
            exact hway'.enter spells
        obtain h | ⟨output, w₂, -, h⟩ := meetsCycle_bind h
        · exact .of_expansion hc hw hu fun hd => hblocks ▸ deeper hd e.chain e.blocks hway'' w₁ hw₁ h
        · cases htransform : e.transform with
          | none =>
            rw [htransform] at h
            exact absurd h (not_meetsCycle_pure _ _)
          | some p =>
            rw [htransform] at h
            exact absurd h (hfree.transform p.1 p.2 output w₂)
  · exact absurd h (not_meetsCycle_throw (by simp [IsCycle]) _)

/-- Blocks that meet a cycle sink. -/
theorem sinks_of_meetsCycle {blocks : List Block} (hway : UnderWay c S answers limit chain depth blocks)
    {w : ω} (hw : S w)
    (h : MeetsCycle ((c.rules (answers.map Loader.ofAnswers) limit).evaluate limit depth chain blocks) w) :
    Sinks c S answers limit depth blocks := by
  induction depth using depthInduction limit generalizing chain blocks w with
  | step depth deeper =>
    induction blocks generalizing w with
    | nil =>
      rw [Rules.evaluate] at h
      exact absurd h (not_meetsCycle_pure _ _)
    | cons b bs ih =>
      rw [Rules.evaluate_cons] at h
      obtain h | ⟨first, w₁, hfirst, h⟩ := meetsCycle_bind h
      · have hb := hway.ahead (Nat.le_refl _) fun j hj => Sinks.cons hj bs
        exact (sinks_block hfree hanswers hc hkeys
          (fun hd chain blocks hway w hw h => deeper hd hway hw h) hb hw h).cons bs
      · obtain ⟨hu, hw₁⟩ := outcome_unchecked hc hw hfirst
        obtain h | ⟨others, w₂, -, h⟩ := meetsCycle_bind h
        · have hbs := hway.ahead (Nat.le_refl _) fun j hj =>
            Sinks.later hc (Nat.le_add_right depth j) hw hu hj
          exact .later hc (Nat.le_refl _) hw hu (ih hbs hw₁ h)
        · exact absurd h (not_meetsCycle_pure _ _)

end

/-! ### Renders with and without the search -/

section

variable {σ τ ι : Type} {c : Context (StateM σ)} {view : σ → Scope} (h : c.Binds view)

include h

/-- Contexts that keep their bindings like a map answer alike wherever the bindings are those of `scope`. -/
theorem Context.Binds.settled (hd : c.Determined view) (scope : Scope) (note : Call → σ → ι) :
    (c.recorded note : Context (StateM (World σ τ ι))).Settled fun w => view w.state = scope where
  condition expression := by
    rintro w w' ⟨hs, hs'⟩
    exact ⟨hd.condition expression (hs.trans hs'.symm), (h.condition expression _).trans hs,
      (h.condition expression _).trans hs'⟩
  transform name expression body := by
    rw [applyTransform_eq]
    exact transform_agreeing h hd scope note name expression body
  report event event' := by
    rintro w w' ⟨hs, hs'⟩
    exact ⟨rfl, (h.report event _).trans hs, (h.report event' _).trans hs'⟩

/-- Binding a name cannot fail, so only evaluating could meet a cycle. -/
theorem Context.Binds.cycleFree (hcondition : ∀ expression s, ¬ MeetsCycle (c.evalCondition expression) s)
    (htext : ∀ expression s, ¬ MeetsCycle (c.evalText expression) s) (note : Call → σ → ι) :
    (c.recorded note : Context (StateM (World σ τ ι))).CycleFree where
  condition expression w := hcondition expression w.state
  transform name expression body w := by
    obtain ⟨s₁, s₂, s₃, s₄, call, -, -, -, -, -, hout⟩ :=
      outcome_transformNoting (τ := τ) h (view w.state) name expression body w.state
    rw [applyTransform_eq, recorded_transform]
    rintro ⟨e, hcycle, he⟩
    rw [hout] at he
    exact htext expression s₂ ⟨e, hcycle, he⟩

/-- The search for cycles only names what is wrong. Where it finds no cycle, the render without it has the
same result, makes the same calls in the same states, and leaves the same state. Where it finds one, the
render without it fails for its depth. -/
theorem generateUnchecked_eq (hd : c.Determined view)
    (hcondition : ∀ expression s, ¬ MeetsCycle (c.evalCondition expression) s)
    (htext : ∀ expression s, ¬ MeetsCycle (c.evalText expression) s)
    {answers : Option (String → Except Error Source)}
    (hanswers : ∀ load ∈ answers, ∀ path e, load path = .error e → ¬ IsCycle e)
    (hkeys : ∀ load ∈ answers, KeyedByPath load) (limit : Nat) (blocks : List Block)
    (w : World σ τ (Call × σ)) :
    let checked := outcome (generate (c.recorded Prod.mk) (answers.map Loader.ofAnswers) limit blocks) w
    let unchecked :=
      outcome (generateUnchecked (c.recorded Prod.mk) (answers.map Loader.ofAnswers) limit blocks) w
    ((∀ key chain, checked.1 ≠ .error (.cycle key chain)) → unchecked = checked) ∧
      ∀ key chain, checked.1 = .error (.cycle key chain) →
        unchecked.1 = .error (.tooDeep limit "generating output") := by
  intro checked unchecked
  simp only [checked, unchecked, generateUnchecked, Rules.generate_eq_evaluate, generate_eq_evaluate_rules]
  constructor
  · intro noCycle
    obtain ⟨e, ⟨key, chain, rfl⟩, he⟩ | ⟨hresult, hworld⟩ := evaluate_inStep_unchecked (c.recorded Prod.mk)
      (answers.map Loader.ofAnswers) limit 0 [] blocks w w rfl
    · exact absurd he (noCycle key chain)
    · exact Prod.ext (alike_eq_iff.1 hresult).symm hworld.symm
  · intro key chain hcycle
    have hway : UnderWay (c.recorded Prod.mk : Context (StateM (World σ τ (Call × σ))))
        (fun v => view v.state = view w.state) answers limit [] 0 blocks := by
      intro key hkey
      cases hkey
    exact sinks_of_meetsCycle (h.cycleFree hcondition htext Prod.mk) hanswers
      (h.settled hd (view w.state) Prod.mk) hkeys hway rfl ⟨_, ⟨key, chain, rfl⟩, hcycle⟩ [] w rfl

end

/-- A context that is its bindings. A condition holds if its name is bound, and a text is the value of its
name. -/
def lookingUp : Context (StateM Scope) where
  evalCondition name := return ((← get) name).isSome
  evalText name := do ((← get) name).elim (throw (.evaluation .undefinedResult name)) pure
  get name := return (← get) name
  set name value := modify (Function.update · name (some value))
  unset name := modify (Function.update · name none)
  report _ := return

theorem outcome_lookingUp_text (name : String) (s : Scope) :
    outcome (lookingUp.evalText name) s
      = ((s name).elim (.error (.evaluation .undefinedResult name)) .ok, s) := by
  have hget : outcome (get : Action (StateM Scope) Scope) s = (.ok s, s) := rfl
  simp only [lookingUp, outcome_bind_of_ok hget]
  cases s name <;> rfl

theorem lookingUp_binds : lookingUp.Binds id where
  get name s := ⟨s, rfl, rfl⟩
  set name value s := ⟨_, rfl, rfl⟩
  unset name s := ⟨_, rfl, rfl⟩
  condition name s := rfl
  text name s := by rw [outcome_lookingUp_text]
  report event s := rfl

theorem lookingUp_determined : lookingUp.Determined id where
  condition name := by rintro s _ rfl; rfl
  text name := by rintro s _ rfl; rfl

/-- A template that includes itself where a name is bound, under another spelling of its path. -/
theorem lookingUp_tooDeep :
    let text := "!!% if x\n!!% include ./a\n%!!\n%!!\n"
    let load (path : String) : Except Error Source :=
      if includeKey path = "a" then .ok ⟨text, none⟩ else .error (.notFound path "<memory>" "file not found")
    let blocks := [.directive (.inclusion "a") []]
    let w : World Scope Unit (Call × Scope) := ⟨fun name => if name = "x" then some "yes" else none, (), []⟩
    let loader := (some load).map Loader.ofAnswers
    (∀ path e, load path = .error e → ¬ IsCycle e) ∧ KeyedByPath load ∧
      (outcome (generate (lookingUp.recorded Prod.mk) loader 9 blocks) w).1 = .error (.cycle "a" ["a"]) ∧
      (outcome (generateUnchecked (lookingUp.recorded Prod.mk) loader 9 blocks) w).1
        = .error (.tooDeep 9 "generating output") := by
  intro text load blocks w loader
  have hcondition : ∀ name s, ¬ MeetsCycle (lookingUp.evalCondition name) s := by
    rintro name s ⟨e, -, he⟩
    cases he
  have htext : ∀ name s, ¬ MeetsCycle (lookingUp.evalText name) s := by
    rintro name s ⟨e, ⟨key, chain, rfl⟩, he⟩
    rw [outcome_lookingUp_text] at he
    cases hs : s name <;> simp [hs] at he
  have hload : ∀ path e, load path = .error e → ¬ IsCycle e := by
    rintro path e he ⟨key, chain, rfl⟩
    simp only [load] at he
    split at he <;> cases he
  have hkeys : KeyedByPath load := by
    intro path path' hkey
    simp only [load, hkey]
    split <;> rfl
  have hresult : (outcome (generate (lookingUp.recorded Prod.mk) loader 9 blocks) w).1
      = .error (.cycle "a" ["a"]) := by
    simp only [loader, load, blocks, w, text]
    cbv
  refine ⟨hload, hkeys, hresult, ?_⟩
  exact (generateUnchecked_eq lookingUp_binds lookingUp_determined hcondition htext
    (by simpa using hload) (by simpa using hkeys) 9 blocks w).2 _ _ hresult

end Stencil.Render
