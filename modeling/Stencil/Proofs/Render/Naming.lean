import Mathlib
import Stencil.Proofs.Normalizing
import Stencil.Proofs.Render.Including

/-!
# Which template an include names

An include is known by a key that comes from its path alone, whichever loader there is. Main statement: with
a root for the paths, the keys tell apart the places that paths lead to, and beyond that how paths begin, and
a render finds just those cycles that a comparison of places and beginnings finds.
-/
namespace Stencil

open Template (Block)

namespace Render

/-! ### Other comparisons of templates -/

section

variable {m : Type → Type} [Monad m] (same : String → String → Prop) [DecidableRel same]
  (context : Context m) (loader : Option (Loader m)) (limit : Nat)

/-- What an include expands to while the templates at `paths` are being included, where `same` says which
paths name one template. -/
def expandIncludeAs (path : String) (depth : Nat) (paths : List String) : Action m Expansion := do
  if loader.isSome ∧ ∃ other ∈ paths, same path other then
    throw (.cycle (includeKey path) (paths.map includeKey))
  let e ← expandInclude context loader limit path depth []
  return { e with chain := paths ++ [path] }

def expandAs (depth : Nat) (paths : List String) : Block → Action m (Option Expansion)
  | .directive (.inclusion path) _ => do
    return some (← expandIncludeAs same context loader limit path depth paths)
  | b => expand context loader limit depth paths b

/-- The output of a template where `same` finds the cycles. -/
def generateAs (blocks : List Block) : Action m String :=
  Rules.generate ⟨expandAs same context loader limit, applyTransform context⟩ limit blocks

end

section

variable {ω : Type} {same : String → String → Prop} [DecidableRel same]
  (hsame : ∀ path other, same path other ↔ includeKey path = includeKey other)
  (c : Context (StateM ω)) (loader : Option (Loader (StateM ω))) (limit : Nat)

include hsame

omit [DecidableRel same] in
theorem includeKey_mem_map_iff (path : String) (paths : List String) :
    includeKey path ∈ paths.map includeKey ↔ ∃ other ∈ paths, same path other := by
  simp only [List.mem_map, hsame, eq_comm]

/-- The keys of the paths, in their order. -/
def KeysOf (keys paths : List String) : Prop := keys = paths.map includeKey

theorem expandInclude_inStep_as (path : String) (depth : Nat) (paths : List String) :
    InStepUnless (fun _ => False) Eq (Expansion.Agrees KeysOf)
      (expandInclude c loader limit path depth (paths.map includeKey))
      (expandIncludeAs same c loader limit path depth paths) := by
  have hkeys := includeKey_mem_map_iff hsame path paths
  unfold expandIncludeAs
  cases loader with
  | none => simpa [expandInclude] using InStepUnless.throw _
  | some load =>
    by_cases hopen : ∃ other ∈ paths, same path other
    · rw [expandInclude_of_mem _ _ _ _ _ (hkeys.2 hopen), if_pos ⟨rfl, hopen⟩]
      exact .throw _
    · rw [expandInclude_of_not_mem _ _ _ _ _ (mt hkeys.1 hopen), if_neg fun h => hopen h.2,
        expandInclude_of_not_mem _ _ _ _ _ List.not_mem_nil]
      simp only [pure_bind, bind_assoc]
      refine (InStepUnless.refl _).bind fun _ _ _ => (InStepUnless.refl _).bind fun blocks _ hblocks => ?_
      exact .pure ⟨hblocks, by simp [KeysOf], rfl⟩

theorem expand_inStep_as (depth : Nat) (paths : List String) (b : Block) :
    InStepUnless (fun _ => False) Eq (Option.Rel (Expansion.Agrees KeysOf))
      (expand c loader limit depth (paths.map includeKey) b) (expandAs same c loader limit depth paths b) := by
  -- Only an include looks at what is being included.
  have hother (hb : ∀ path children, b ≠ .directive (.inclusion path) children) :
      InStepUnless (fun _ => False) Eq (Option.Rel (Expansion.Agrees KeysOf))
        (expand c loader limit depth (paths.map includeKey) b) (expand c loader limit depth paths b) := by
    refine .expand KeysOf rfl (fun _ => .refl _) b fun path children h => ?_
    exact absurd h (hb path children)
  cases b with
  | text content => exact hother (by simp)
  | foreign value => exact hother (by simp)
  | choice condition children otherwise => exact hother (by simp)
  | directive kind children =>
    cases kind with
    | inclusion path =>
      have hinclude := expandInclude_inStep_as hsame c loader limit path depth paths
      exact hinclude.bind fun e e' he => .pure (.some he)
    | _ => exact hother (by simp)

/-- A render finds the cycles that a comparison of paths finds, if that says of paths what their keys say. -/
theorem outcome_generateAs (blocks : List Block) (w : ω) :
    outcome (generate c loader limit blocks) w = outcome (generateAs same c loader limit blocks) w := by
  rw [generate_eq_evaluate_rules, generateAs, Rules.generate_eq_evaluate]
  have hnone : KeysOf [] [] := rfl
  have hrender : InStepUnless (fun _ => False) Eq Eq ((c.rules loader limit).evaluate limit 0 [] blocks)
      (Rules.evaluate ⟨expandAs same c loader limit, applyTransform c⟩ limit 0 [] blocks) := by
    refine .evaluate_of_expand KeysOf ?_ ?_ 0 hnone blocks
    · intro name expression body
      exact .refl _
    · rintro d _ paths b rfl
      exact expand_inStep_as hsame c loader limit d paths b
  obtain ⟨e, hfalse, -⟩ | ⟨hresult, hstate⟩ := hrender w w rfl
  · exact hfalse.elim
  · exact Prod.ext (alike_eq_iff.1 hresult) hstate

end

end Render

/-! ### Places -/

open Render

/-- The path with slashes for backslashes. -/
def slashed (path : String) : String := path.map fun c => if c = '\\' then '/' else c

theorem slashed_eq {path : String} (h : '\\' ∉ path.toList) : slashed path = path := by
  have hsame : ∀ c ∈ path.toList, (if c = '\\' then '/' else c) = c := by
    intro c hc
    rw [if_neg]
    rintro rfl
    exact h hc
  rw [slashed, ← String.toList_inj, String.toList_map, List.map_congr_left hsame, List.map_id']

/-- With slashes for backslashes, the paths lead to one place in `root`, and begin alike. -/
def NamesAs (root : Path) (path other : String) : Prop :=
  root.resolve (.ofString (slashed path)) = root.resolve (.ofString (slashed other)) ∧
    (Path.ofString (slashed path)).BeginsAs (.ofString (slashed other))
  deriving Decidable

theorem namesAs_iff {root : Path} (hroot : ".." ∉ root.parts) (path other : String) :
    NamesAs root path other ↔ includeKey path = includeKey other := by
  rw [NamesAs, ← Path.squeezed_eq_iff hroot, ← Path.normalize_eq_iff]
  rfl

/-- The keys of includes tell places apart, and how paths begin. So a path without backslashes has the key of
another one if and only if the loader looks for both in one place and they begin alike, and an include is a
cycle if and only if that holds of its path and the path of a template that is being included. -/
theorem includeKey_tells_places (directory base : Path) :
    let root := directory.resolve base
    (∀ path other : String, includeKey path = includeKey other ↔ NamesAs root path other) ∧
      (∀ (path other : String) (place place' : Path), '\\' ∉ path.toList → '\\' ∉ other.toList →
        locateTemplate root path = .ok place → locateTemplate root other = .ok place' →
          (includeKey path = includeKey other ↔
            place = place' ∧ (Path.ofString path).BeginsAs (.ofString other))) ∧
      ∀ (ω : Type) (c : Context (StateM ω)) (loader : Option (Loader (StateM ω))) (limit : Nat)
        (blocks : List Block) (w : ω), outcome (generate c loader limit blocks) w
          = outcome (generateAs (NamesAs root) c loader limit blocks) w := by
  intro root
  have hkeys := namesAs_iff (Path.resolve_no_dots directory base)
  refine ⟨fun path other => (hkeys path other).symm, ?_, ?_⟩
  · intro path other place place' hpath hother hplace hplace'
    rw [← hkeys path other, NamesAs, slashed_eq hpath, slashed_eq hother, (locateTemplate_eq_ok hplace).1,
      (locateTemplate_eq_ok hplace').1]
  · intro ω c loader limit blocks w
    exact outcome_generateAs hkeys c loader limit blocks w

/-- Spellings of one place that begin alike. -/
theorem includeKey_spellings :
    let root : Path := Path.resolve ⟨1, []⟩ ⟨0, ["t"]⟩
    let place : Path := ⟨1, ["t", "x"]⟩
    '\\' ∉ "a/../x".toList ∧ '\\' ∉ ".//x".toList ∧ locateTemplate root "a/../x" = .ok place ∧
      locateTemplate root ".//x" = .ok place ∧ includeKey "a/../x" = includeKey ".//x" := by
  intro root place
  have hpath : '\\' ∉ "a/../x".toList := by decide
  have hother : '\\' ∉ ".//x".toList := by decide
  have hplace : locateTemplate root "a/../x" = .ok place := by cbv
  have hplace' : locateTemplate root ".//x" = .ok place := by cbv
  refine ⟨hpath, hother, hplace, hplace', ?_⟩
  exact ((includeKey_tells_places ⟨1, []⟩ ⟨0, ["t"]⟩).2.1 _ _ _ _ hpath hother hplace hplace').2
    ⟨rfl, by decide +kernel⟩

/-- A place has keys for each way into its root, and a backslash in a name gives two places one key. -/
theorem includeKey_not_place :
    let root : Path := Path.resolve ⟨1, []⟩ ⟨0, ["t"]⟩
    (locateTemplate root "x" = .ok ⟨1, ["t", "x"]⟩ ∧ locateTemplate root "../t/x" = .ok ⟨1, ["t", "x"]⟩ ∧
        includeKey "x" ≠ includeKey "../t/x") ∧
      locateTemplate root "a/b" = .ok ⟨1, ["t", "a", "b"]⟩ ∧
        locateTemplate root "a\\b" = .ok ⟨1, ["t", "a\\b"]⟩ ∧ includeKey "a/b" = includeKey "a\\b" := by
  intro root
  refine ⟨⟨?_, ?_, ?_⟩, ?_, ?_, ?_⟩ <;> cbv

end Stencil
