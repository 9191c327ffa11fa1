import Mathlib
import Stencil.Proofs.Render.Inlining
import Stencil.Proofs.Template.Room

/-!
# Renders under a higher limit

The limit is consulted by the reader of the outer text, by the generator before each directive, and by the
reader of each included text. Under a higher limit the same calls are made in the same order until one of
the three refuses. Main statement: a render that is not too deep is the same under every higher limit, with
its result, its calls, and the states that it leaves.
-/
namespace Stencil.Render

open Template (Block)

/-- The errors for a depth of more than `limit`, of whatever is being done. -/
def Exceeds (limit : Nat) (e : Error) : Prop := ∃ activity, e = .tooDeep limit activity

section

variable {ω : Type} {limit limit' : Nat} (h : limit ≤ limit')

include h

theorem parseReported_inStep (report : Event → StateM ω Unit) (text : String) :
    InStepUnless (Exceeds limit) Eq Eq (parseReported report limit text)
      (parseReported report limit' text) := by
  unfold parseReported
  by_cases hdeep : ∃ activity, Template.parseWithin limit text = .error (.tooDeep limit activity)
  · obtain ⟨activity, hdeep⟩ := hdeep
    rw [hdeep]
    exact .escapes ⟨activity, rfl⟩ _
  · rw [Template.parseWithin_of_le h (not_exists.1 hdeep)]
    exact .refl _

theorem fetch_inStep (report : Event → StateM ω Unit) (load : Loader (StateM ω)) (path : String) :
    InStepUnless (Exceeds limit) Eq Eq (fetch report load limit path) (fetch report load limit' path) := by
  refine (InStepUnless.refl (load path)).bind fun source _ hsource => ?_
  obtain rfl := hsource
  exact (InStepUnless.refl _).bind fun _ _ _ => parseReported_inStep h report source.text

theorem expandInclude_inStep (c : Context (StateM ω)) (loader : Option (Loader (StateM ω))) (path : String)
    (depth : Nat) (chain : List String) :
    InStepUnless (Exceeds limit) Eq (Expansion.Agrees Eq)
      (expandInclude c loader limit path depth chain) (expandInclude c loader limit' path depth chain) := by
  cases loader with
  | none => exact .throw _
  | some load =>
    by_cases hmem : includeKey path ∈ chain
    · rw [expandInclude_of_mem c limit path depth load hmem, expandInclude_of_mem c limit' path depth load hmem]
      exact .throw _
    · rw [expandInclude_of_not_mem c limit path depth load hmem,
        expandInclude_of_not_mem c limit' path depth load hmem]
      exact (InStepUnless.refl _).bind fun _ _ _ =>
        (fetch_inStep h c.report load path).bind fun blocks _ hblocks => .pure ⟨hblocks, rfl, rfl⟩

/-- Blocks at one depth render alike under both limits until they are too deep for the lower one. -/
theorem evaluate_inStep_of_le (c : Context (StateM ω)) (loader : Option (Loader (StateM ω))) (depth : Nat)
    (chain : List String) (blocks : List Block) :
    InStepUnless (Exceeds limit) Eq Eq ((c.rules loader limit).evaluate limit depth chain blocks)
      ((c.rules loader limit').evaluate limit' depth chain blocks) := by
  refine .evaluate Eq Eq ?_ ?_ ?_ ?_ rfl rfl blocks
  · intro name expression body
    exact .refl _
  · rintro d _ rfl hd
    exact ⟨Nat.lt_of_lt_of_le hd h, rfl⟩
  · -- The lower limit refuses what the higher one may let through.
    rintro d _ rfl _
    exact .inl ⟨_, rfl⟩
  · rintro d _ chain _ b rfl rfl
    exact .expand Eq rfl (fun _ => .refl _) b fun path _ _ => expandInclude_inStep h c loader path d chain

end

/-! ### Texts -/

theorem renderText_natCast {m : Type → Type} [Monad m] [LawfulMonad m] (c : Context m) (loader : Option (Loader m))
    {limit : Nat} (h : 1 ≤ limit) (text : String) :
    renderText c loader limit text = (do
      let blocks ← parseReported c.report limit text
      generate c loader limit blocks) := by
  have hlimit : Template.checkLimit limit = .ok limit := by
    rw [Template.checkLimit, if_neg (by omega)]
    rfl
  rw [renderText, hlimit]
  exact pure_bind _ _

section

variable {σ τ : Type}

/-- Raising the limit never changes a render that does not run into it: the result stays, the calls and the
states that they are made in, and the states at the end. -/
theorem renderText_of_le (c : Context (StateM σ)) (loader : Option (Loader (StateM τ))) {limit limit' : Nat}
    (hlimit : 1 ≤ limit) (hle : limit ≤ limit') (text : String) (w : World σ τ (Call × σ)) :
    let render (limit : Nat) :=
      outcome (renderText (c.recorded Prod.mk) (loader.map Loader.supplied) limit text) w
    (∀ activity, (render limit).1 ≠ .error (.tooDeep limit activity)) → render limit' = render limit := by
  intro render hdeep
  have inStep : InStepUnless (Exceeds limit) Eq Eq
      (renderText (c.recorded Prod.mk : Context (StateM (World σ τ (Call × σ)))) (loader.map Loader.supplied)
        limit text)
      (renderText (c.recorded Prod.mk) (loader.map Loader.supplied) limit' text) := by
    rw [renderText_natCast _ _ hlimit, renderText_natCast _ _ (Nat.le_trans hlimit hle)]
    refine (parseReported_inStep hle _ text).bind fun blocks _ hblocks => ?_
    rw [generate_eq_evaluate_rules, generate_eq_evaluate_rules, hblocks]
    exact evaluate_inStep_of_le hle _ _ 0 [] _
  obtain ⟨e, ⟨activity, rfl⟩, he⟩ | ⟨hr, hw⟩ := inStep w w rfl
  · exact absurd he (hdeep activity)
  · exact Prod.ext (alike_eq_iff.1 hr).symm hw.symm

end

/-- A transform around an include reaches the second level, and what is included has a directive of its own
on the third. -/
theorem renderText_noticing_raised :
    let answers (path : String) : Except Error Source :=
      if path = "part" then .ok ⟨"!!% if seen\nno\n%!!\n", none⟩
      else .error (.notFound path "<memory>" "file not found")
    let text := "!!% transform x: x\n!!% include part\n%!!\n%!!\n"
    let w : World _ Unit _ := ⟨[], (), []⟩
    let render (limit : Nat) :=
      outcome (renderText (noticing.recorded Prod.mk) (some (Loader.ofAnswers answers)) limit text) w
    1 ≤ 3 ∧ 3 ≤ 100 ∧ (∀ activity, (render 3).1 ≠ .error (.tooDeep 3 activity)) ∧ render 100 = render 3 := by
  intro answers text w render
  have hresult : (render 3).1 = .ok "" := by
    simp only [render, w, text, answers]
    cbv
  have notDeep : ∀ activity, (render 3).1 ≠ .error (.tooDeep 3 activity) := by
    intro activity
    rw [hresult]
    simp
  refine ⟨by decide, by decide, notDeep, ?_⟩
  exact renderText_of_le noticing (some (Loader.ofAnswers answers)) (by decide) (by decide) text w notDeep

end Stencil.Render
