import Stencil.Proofs.Disk

/-!
# Renders that are asked for properly

Two errors blame the program and not what it was given: a name bound to something other than a text, and a
limit on depth below one. Main statement: a configuration with a limit above zero is rendered without either
of them, whatever its templates are and whatever becomes of its files.
-/
namespace Stencil

open Stencil.Expr (Bindings Value)
open Render (Action Context Event Loader Source Valuation outcome)
open Template (Block)

/-- Does the error blame the program that asked for the render? -/
def Error.isMisuse : Error → Bool
  | badBinding .. | depthNotPositive _ => true
  | _ => false

/-! ### What is known of values -/

/-- Properties that the values of effects have, which sequences inherit from their parts. -/
structure Guarantee (m : Type → Type) [Monad m] where
  Holds {α : Type} (p : α → Prop) (x : m α) : Prop
  of_forall {α : Type} {p : α → Prop} (x : m α) : (∀ a, p a) → Holds p x
  of_pure {α : Type} {p : α → Prop} {a : α} : p a → Holds p (pure a)
  of_bind {α β : Type} {p : α → Prop} {q : β → Prop} {x : m α} {f : α → m β} :
    Holds p x → (∀ a, p a → Holds q (f a)) → Holds q (x >>= f)

namespace Guarantee

/-- The values of computations from all states. -/
def states (ω : Type) : Guarantee (StateM ω) where
  Holds p x := ∀ w, p (x.run w).1
  of_forall _ h _ := h _
  of_pure h _ := h
  of_bind hx hf w := hf _ (hx w) _

section

variable {m : Type → Type} [Monad m]

/-- The values of computations with one more state, from all its states. -/
def withState (G : Guarantee m) (σ : Type) : Guarantee (StateT σ m) where
  Holds p x := ∀ s, G.Holds (fun r => p r.1) (x.run s)
  of_forall x h s := G.of_forall (x.run s) fun r => h r.1
  of_pure h _ := G.of_pure h
  of_bind hx hf s := by
    refine G.of_bind (hx s) ?_
    rintro ⟨a, s'⟩ h
    exact hf a h s'

variable (G : Guarantee m) {α : Type}

/-- The action does not fail because of the program that asked for it. -/
def Proper (x : Action m α) : Prop :=
  G.Holds (fun r : Except Error α => ∀ e, r = .error e → e.isMisuse = false) x.run

end

namespace Proper

section

variable {m : Type → Type} [Monad m] {G : Guarantee m} {α β : Type}

theorem liftExcept {r : Except Error α} (h : ∀ e, r = .error e → e.isMisuse = false) :
    G.Proper (liftM r : Action m α) := by
  cases r with
  | ok a => exact G.of_pure h
  | error e => exact G.of_pure h

theorem pure (a : α) : G.Proper (pure a : Action m α) := G.of_pure (by simp)

theorem throw {e : Error} (h : e.isMisuse = false) : G.Proper (throw e : Action m α) := by
  refine G.of_pure ?_
  rintro _ ⟨⟩
  exact h

theorem bind {x : Action m α} {f : α → Action m β} (hx : G.Proper x) (hf : ∀ a, G.Proper (f a)) :
    G.Proper (x >>= f) := by
  refine G.of_bind hx fun r hr => ?_
  cases r with
  | ok a => exact hf a
  | error e => exact throw (hr e rfl)

variable [LawfulMonad m]

/-- What is known of the value of an effect may be used in what follows. -/
theorem lift_bind {p : α → Prop} {x : m α} (hx : G.Holds p x) {f : α → Action m β}
    (hf : ∀ a, p a → G.Proper (f a)) : G.Proper ((ExceptT.lift x : Action m α) >>= f) := by
  have hrun : ((ExceptT.lift x : Action m α) >>= f).run = x >>= fun a => (f a).run := by simp
  rw [Proper, hrun]
  exact G.of_bind hx hf

theorem lift (x : m α) : G.Proper (liftM x : Action m α) := by
  change G.Holds _ (Except.ok <$> x)
  rw [map_eq_pure_bind]
  exact G.of_bind (G.of_forall x fun _ => trivial) fun a _ => (pure a : G.Proper _)

/-! ### Renders -/

theorem ensuring {x : Action m α} {last : Action m Unit} (hx : G.Proper x) (hlast : G.Proper last) :
    G.Proper (Render.ensuring x last) := by
  refine lift_bind hx fun r hr => hlast.bind fun _ => ?_
  cases r with
  | ok a => exact pure a
  | error e => exact throw (hr e rfl)

/-- Contexts whose calls are proper transform properly. -/
theorem transform {c : Context m} (hget : ∀ name, G.Proper (c.get name))
    (hset : ∀ name value, G.Proper (c.set name value)) (hunset : ∀ name, G.Proper (c.unset name))
    (htext : ∀ expression, G.Proper (c.evalText expression)) (name expression body : String) :
    G.Proper (c.valuation.transform name expression body) := by
  have hrebind (former : Option String) : G.Proper (c.rebind name former) := by
    cases former with
    | none => exact hunset name
    | some value => exact hset name value
  exact (hget name).bind fun former => (hset name body).bind fun _ =>
    ((htext expression).ensuring (hrebind former)).bind fun text => (lift _).bind fun _ => pure text

theorem parseReported (report : Event → m Unit) (limit : Nat) (text : String) :
    G.Proper (Render.parseReported report limit text) := by
  refine bind (liftExcept fun e he => ?_) fun blocks => (lift _).bind fun _ => pure blocks
  obtain ⟨m, rfl⟩ | ⟨activity, rfl⟩ := Render.error_of_parseWithin he <;> rfl

theorem includedBlocks (report : Event → m Unit) {loader : Option (Loader m)}
    (hl : ∀ load, loader = some load → ∀ path, G.Proper (load path)) (limit : Nat) (path : String) (depth : Nat)
    (chain : List String) : G.Proper (Render.includedBlocks report loader limit path depth chain) := by
  cases loader with
  | none => exact throw rfl
  | some load =>
    simp only [Render.includedBlocks]
    split
    · exact throw rfl
    · exact (lift _).bind fun _ => (hl load rfl path).bind fun source => (lift _).bind fun _ =>
        parseReported report limit source.text

section

variable {v : Valuation m} {loader : Option (Loader m)} {limit : Nat}
  (hcondition : ∀ expression, G.Proper (v.condition expression))
  (htransform : ∀ name expression body, G.Proper (v.transform name expression body))
  (hload : ∀ load, loader = some load → ∀ path, G.Proper (load path))

include hcondition htransform hload

/-- A block is rendered properly if the blocks one level below are. -/
theorem evaluateBlock {depth : Nat} (deeper : depth < limit → ∀ chain blocks,
      G.Proper (Render.evaluate v loader limit (depth + 1) chain blocks))
    (chain : List String) (b : Block) : G.Proper (Render.evaluateBlock v loader limit depth chain b) := by
  cases b with
  | text content =>
    rw [Render.evaluateBlock]
    exact pure content
  | foreign value =>
    rw [Render.evaluateBlock]
    exact throw rfl
  | choice condition children otherwise =>
    rw [Render.evaluateBlock]
    split
    · exact (hcondition _).bind fun holds => deeper ‹_› _ _
    · exact throw rfl
  | directive kind children =>
    rw [Render.evaluateBlock.eq_def]
    dsimp only
    split
    · rename_i hd
      cases kind with
      | group header => exact deeper hd _ _
      | guard condition =>
        refine (hcondition _).bind fun holds => ?_
        cases holds with
        | true => exact deeper hd _ _
        | false => exact pure ""
      | inclusion path =>
        exact (includedBlocks v.report hload limit path _ chain).bind fun blocks => deeper hd _ _
      | transform name expression => exact (deeper hd _ _).bind fun body => htransform _ _ _
      | custom kind => exact throw rfl
    · exact throw rfl

theorem evaluate (depth : Nat) (chain : List String) (blocks : List Block) :
    G.Proper (Render.evaluate v loader limit depth chain blocks) := by
  induction depth using Render.depthInduction limit generalizing chain blocks with
  | step depth deeper =>
    induction blocks with
    | nil =>
      rw [Render.evaluate]
      exact pure ""
    | cons b bs ih =>
      rw [Render.evaluate]
      exact (evaluateBlock hcondition htransform hload deeper chain b).bind fun first =>
        ih.bind fun others => pure _

end

end

end Proper

end Guarantee

/-! ### Contexts with expressions -/

namespace Expr

theorem report_isMisuse (s : String) (flaw : String → EvaluationFlaw) (message : Message) :
    (report s flaw message).isMisuse = false := by
  cases message <;> rfl

/-- Whatever is wrong with an expression is wrong with the template. -/
theorem Engine.finish_isMisuse {en : Engine} {b : Bindings} {s : String} {r : Except Refusal en.Program}
    {e : Error} (h : en.finish b s r = .error e) : e.isMisuse = false := by
  cases r with
  | error refusal =>
    cases refusal <;> cases h
    · exact report_isMisuse s _ _
    · rfl
    · rfl
  | ok p =>
    rw [finish] at h
    split at h
    · cases h
      exact report_isMisuse s _ _
    · cases h
      rfl
    · cases h

theorem Bindings.foldlM_bind_text (b entries : Bindings) :
    ((entries.map fun p => (p.1, Value.text p.2)).foldlM (fun b p => b.bind p.1 p.2) b : Except Error Bindings)
      = .ok (entries.foldl (fun b p => b.set p.1 p.2) b) := by
  induction entries generalizing b with
  | nil => rfl
  | cons p rest ih => exact ih _

/-- Texts can be bound to any name. -/
theorem Bindings.ofValues_text (entries : Bindings) :
    ofValues (entries.map fun p => (p.1, Value.text p.2))
      = .ok (entries.foldl (fun b p => b.set p.1 p.2) []) := foldlM_bind_text [] entries

end Expr

namespace Guarantee.Proper

section

variable {m : Type → Type} [Monad m] [LawfulMonad m] {G : Guarantee m} (en : Expr.Engine)
  (report : Event → StateT en.Memory m Unit)

theorem evaluateHere (s : String) : (G.withState en.Memory).Proper (en.evaluateHere report s) := by
  refine bind (lift _) fun memory => ?_
  obtain ⟨program, prepared⟩ := en.prepare memory.prepared s
  refine bind (lift _) fun _ => ?_
  split
  · rename_i error hfinish
    exact throw (Expr.Engine.finish_isMisuse hfinish)
  · exact bind (lift _) fun _ => pure _

theorem evalCondition (s : String) : (G.withState en.Memory).Proper ((en.context report).evalCondition s) := by
  refine (evaluateHere en report s).bind fun v => liftExcept fun e he => ?_
  cases v <;> cases he <;> rfl

theorem evalText (s : String) : (G.withState en.Memory).Proper ((en.context report).evalText s) := by
  refine (evaluateHere en report s).bind fun v => liftExcept fun e he => ?_
  split at he <;> cases he
  rfl

/-- Every name can be bound to a text, so a generator with an engine is proper if its loader is. -/
theorem generate {loader : Option (Loader (StateT en.Memory m))}
    (hload : ∀ load, loader = some load → ∀ path, (G.withState en.Memory).Proper (load path)) (limit : Nat)
    (blocks : List Block) :
    (G.withState en.Memory).Proper (Render.generate (en.context report) loader limit blocks) := by
  rw [Render.generate_eq]
  exact evaluate (evalCondition en report)
    (transform (fun _ => bind (lift _) fun _ => pure _) (fun _ _ => lift _) (fun _ => lift _) (evalText en report))
    hload 0 [] blocks

end

end Guarantee.Proper

/-! ### Workspaces -/

theorem Path.checkNull_isMisuse {p : Path} {e : Error} (h : p.checkNull = .error e) : e.isMisuse = false := by
  unfold checkNull at h
  split at h <;> cases h
  rfl

namespace Guarantee.Proper

variable {m : Type → Type} [Monad m] [LawfulMonad m] {G : Guarantee m} (w : Workspace m)

theorem follow (p : Path) : G.Proper (w.files.follow p) := by
  refine bind (lift _) fun r => ?_
  cases r with
  | ok place => exact pure place
  | error fault => exact throw rfl

theorem resolve (p : Path) : G.Proper (w.files.resolve p) :=
  bind (liftExcept fun _ he => Path.checkNull_isMisuse he) fun _ => follow w p

theorem resolveAny (p : Option Path) : G.Proper (p.mapM w.files.resolve) := by
  cases p with
  | none => exact pure none
  | some p =>
    rw [Option.mapM_some, map_eq_pure_bind]
    exact bind (resolve w p) fun place => pure (some place)

theorem isFile (p : Path) : G.Proper (w.files.isFile p) := by
  unfold Files.isFile
  split
  · exact pure false
  · refine bind (lift _) fun r => ?_
    split
    · exact pure _
    · split
      · exact pure false
      · exact throw rfl

theorem locate (root : Path) (path : String) : G.Proper (w.locate root path) := by
  refine bind (liftExcept fun _ he => Path.checkNull_isMisuse he) fun _ => bind (follow w _) fun place => ?_
  split
  · exact pure place
  · exact throw rfl

theorem loader (encoding : Text.Encoding) (root : Path) (path : String) :
    G.Proper (w.loader encoding root path) := by
  rw [w.loader_eq]
  refine bind (locate w root path) fun place => bind (isFile w place) fun there => ?_
  split
  · refine bind (lift _) fun result => ?_
    cases result with
    | ok text => exact pure _
    | error e => exact throw rfl
  · exact throw rfl

theorem loadFrom (encoding : Text.Encoding) (root : Path) (path : String) :
    G.Proper (w.loadFrom encoding root path) := by
  refine bind (loader w encoding root path) fun source => ?_
  obtain ⟨text, location⟩ := source
  cases location with
  | some location => exact bind (lift _) fun _ => pure text
  | none => exact pure text

theorem renderText (en : Expr.Engine) (text : String) (bindings : Bindings) (root : Option Path) {limit : Nat}
    (hlimit : 1 ≤ limit) :
    G.Proper (w.renderText en text (bindings.map fun p => (p.1, Value.text p.2)) root limit) := by
  have hchecked : Template.checkLimit limit = .ok limit := by
    rw [Template.checkLimit, if_neg (by omega)]
    rfl
  unfold Workspace.renderText
  rw [hchecked, Bindings.ofValues_text]
  refine bind (pure limit) fun limit => bind (parseReported w.report limit text) fun blocks => ?_
  refine bind (pure _) fun bindings => bind (resolveAny w root) fun root => ?_
  let inner : Workspace (StateT en.Memory m) := w.lift
  have hload (load : Loader (StateT en.Memory m)) (h : root.map (inner.loader .utf8) = some load)
      (path : String) : (G.withState en.Memory).Proper (load path) := by
    obtain ⟨root, -, rfl⟩ := Option.map_eq_some_iff.1 h
    exact loader inner .utf8 root path
  have houtput := generate en inner.report hload limit blocks
  refine lift_bind (houtput _) fun r hr => ?_
  exact liftExcept hr

theorem renderFile (en : Expr.Engine) (path : Path) (bindings : Bindings) {limit : Nat} (hlimit : 1 ≤ limit) :
    G.Proper (w.renderFile en path (bindings.map fun p => (p.1, Value.text p.2)) limit) :=
  bind (resolve w path.parent) fun root => bind (loadFrom w .utf8 root path.name) fun text =>
    renderText w en text bindings (some root) hlimit

/-- What a configuration binds are texts, so all that could blame the program is its limit. -/
theorem renderConfig (en : Expr.Engine) {c : Config} (hlimit : 1 ≤ c.limit) : G.Proper (w.renderConfig en c) := by
  unfold Workspace.renderConfig
  split
  · exact throw rfl
  · exact bind (lift _) fun _ => renderFile w en _ c.bindings hlimit

end Guarantee.Proper

end Stencil
