import Stencil.Workspace

/-!
# Paths that stay inside

Where no path leads through a link, the place of a template can be told from its path alone. Main statement:
every path is found a place in the root or is refused, whatever double dots, slashes and names it has.
-/
namespace Stencil

namespace Path

/-- Taking double dots away leaves none. -/
theorem climb_no_dots {done : List String} (hdone : ".." ∉ done) (parts : List String) :
    ".." ∉ climb done parts := by
  fun_induction climb done parts with
  | case1 done => simpa using hdone
  | case2 done rest ih => exact ih fun h => hdone (List.mem_of_mem_drop h)
  | case3 done part rest hpart ih => exact ih (by simpa [Ne.symm hpart] using hdone)

@[simp] theorem isAbsolute_resolve (base p : Path) : (base.resolve p).isAbsolute = true := rfl

theorem resolve_no_dots (base p : Path) : ".." ∉ (base.resolve p).parts := climb_no_dots (by simp) _

theorem isWithin_iff {root p : Path} :
    root.isWithin p = true ↔ p.slashes = root.slashes ∧ root.parts <+: p.parts := by
  simp [isWithin]

/-- The pieces of a text consist of its characters. -/
theorem subset_of_mem_pieces {cs piece : List Char} (h : piece ∈ pieces cs) : piece ⊆ cs := by
  induction cs generalizing piece with
  | nil => simp_all [pieces]
  | cons c cs ih =>
    have later {q : List Char} (hq : q ∈ pieces cs) : q ⊆ c :: cs := List.subset_cons_of_subset c (ih hq)
    rw [pieces] at h
    split at h
    · obtain rfl | h := List.mem_cons.1 h
      · exact List.nil_subset _
      · exact later h
    · cases hps : pieces cs with
      | nil =>
        obtain rfl : piece = [c] := by simpa [hps] using h
        simp
      | cons p ps =>
        rw [hps] at h
        obtain rfl | h := List.mem_cons.1 h
        · exact List.cons_subset_cons c (ih (by simp [hps]))
        · exact later (by simp [hps, h])

theorem checkNull_eq_ok {p : Path} : p.checkNull = .ok () ↔ ∀ part ∈ p.parts, '\x00' ∉ part.toList := by
  simp [checkNull]

theorem checkNull_ofString {s : String} (h : '\x00' ∉ s.toList) : (ofString s).checkNull = .ok () := by
  rw [checkNull_eq_ok]
  intro part hpart hnull
  obtain ⟨piece, hpiece, rfl⟩ := List.mem_map.1 (List.mem_filter.1 hpart).1
  exact h (subset_of_mem_pieces hpiece (by simpa using hnull))

end Path

/-- A place in `root`: it goes on from there, and has no double dot that could lead out of it. -/
structure Path.Inside (root place : Path) : Prop where
  slashes : place.slashes = root.slashes
  parts : root.parts <+: place.parts
  no_dots : ".." ∉ place.parts

/-- Where in `root` a template is that is included as `path`, by the path alone. -/
def locateTemplate (root : Path) (path : String) : Except Error Path := do
  let p := Path.ofString path
  p.checkNull
  let place := root.resolve p
  if root.isWithin place then return place
  else .error (.notFound path root.text "path escapes the template root")

theorem locateTemplate_of_null {root : Path} {path : String} {e : Error}
    (h : (Path.ofString path).checkNull = .error e) : locateTemplate root path = .error e := by
  simp only [locateTemplate, h]
  rfl

theorem locateTemplate_eq (root : Path) {path : String} (h : (Path.ofString path).checkNull = .ok ()) :
    locateTemplate root path = if root.isWithin (root.resolve (.ofString path)) then
      .ok (root.resolve (.ofString path))
      else .error (.notFound path root.text "path escapes the template root") := by
  simp only [locateTemplate, h]
  rfl

theorem locateTemplate_eq_ok {root place : Path} {path : String} (h : locateTemplate root path = .ok place) :
    root.resolve (.ofString path) = place ∧ root.isWithin place = true := by
  cases hnull : (Path.ofString path).checkNull with
  | error e =>
    rw [locateTemplate_of_null hnull] at h
    cases h
  | ok u =>
    rw [locateTemplate_eq root hnull] at h
    split at h
    · rename_i hwithin
      cases h
      exact ⟨rfl, hwithin⟩
    · cases h

theorem locateTemplate_inside {root place : Path} {path : String} (h : locateTemplate root path = .ok place) :
    root.Inside place := by
  obtain ⟨rfl, hwithin⟩ := locateTemplate_eq_ok h
  obtain ⟨hslashes, hparts⟩ := Path.isWithin_iff.1 hwithin
  exact ⟨hslashes, hparts, Path.resolve_no_dots root _⟩

/-- A template is looked for in the root or not at all: a path without a null character has its place there,
or it is refused. -/
theorem locateTemplate_confined (root : Path) {path : String} (h : '\x00' ∉ path.toList) :
    (∃ place, locateTemplate root path = .ok place ∧ root.Inside place) ∨
      locateTemplate root path = .error (.notFound path root.text "path escapes the template root") := by
  have hlocate := locateTemplate_eq root (Path.checkNull_ofString h)
  by_cases hwithin : root.isWithin (root.resolve (.ofString path))
  · rw [if_pos hwithin] at hlocate
    exact .inl ⟨_, hlocate, locateTemplate_inside hlocate⟩
  · rw [if_neg hwithin] at hlocate
    exact .inr hlocate

end Stencil
