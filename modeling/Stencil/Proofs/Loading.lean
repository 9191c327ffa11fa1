import Mathlib
import Stencil.Proofs.Confinement
import Stencil.Proofs.Render.Inlining
import Stencil.Proofs.Render.Stepping
import Stencil.Proofs.TemplateFiles

/-!
# Loading templates

A template is located, looked for, read and decoded. Main statement: where nothing is a link, what comes out is the
text of a regular file in the root, or an error that names the path and the root; but a path with a null character
cannot be located, and one that is too long cannot be looked for. An include ends a render with an error that is not
for users only in these two ways.
-/
namespace Stencil

open Render (Call CallFailed Context Coupling Loader Reached Source Stack World fails_of_step generate outcome
  outcome_bind outcome_bind_of_ok step)
open Template (Block)
open Text (Bytes Encoding)

/-! ### Paths that are too long -/

namespace Path

/-- Too long to be followed, as a whole or in one of its names. -/
def IsOverlong (p : Path) : Prop := ¬ p.IsShort ∨ ∃ name ∈ p.parts, FileTree.isTooLong name

end Path

namespace Disk

variable (d : Disk)

/-- A file is there or is not, and that can be told unless its path is too long or leads to one that is. -/
theorem find_cases_of_length (p : Path) :
    (p.IsOverlong ∨ d.tree.OverlongLink) ∧ d.find p = .error .nameTooLong ∨ ∃ found, d.find p = .ok found := by
  rcases p.checkNull_cases with hnull | hnull
  · cases hlocate : d.tree.locate d.directory p with
    | ok place => exact .inr ⟨_, find_of_locate hnull hlocate⟩
    | error fault =>
      rw [find_of_locate_error hnull hlocate]
      by_cases hshort : p.IsShort
      · obtain ⟨place, rest, hfollow⟩ := FileTree.locate_eq_error hlocate hshort
        obtain habsence | ⟨rfl, hlong⟩ := hfollow.fault_cases
        · exact .inr ⟨none, if_pos habsence⟩
        · exact .inl ⟨hlong.imp_left .inr, rfl⟩
      · rw [FileTree.locate_of_long hshort] at hlocate
        cases hlocate
        exact .inl ⟨.inl (.inl hshort), rfl⟩
  · refine .inr ⟨none, ?_⟩
    unfold find
    rw [hnull]

/-- Without links, what is found at an absolute path without double dots lies where the path says. -/
theorem entry_of_find {d : Disk} (hl : d.tree.Linkless) {p : Path} (habsolute : p.isAbsolute) (hdots : ".." ∉ p.parts)
    {content : Bytes} (h : d.find p = .ok (some content)) : d.tree.entry? p.parts = some (.file content) := by
  obtain ⟨place, hlocate, hentry⟩ := find_eq_found h
  obtain ⟨left, hfollow⟩ := FileTree.locate_eq_ok hlocate
  have horigin : FileTree.origin d.directory.parts p = [] := if_pos habsolute
  rw [horigin] at hfollow
  rwa [hl.place_eq hdots hfollow] at hentry

end Disk

/-! ### Loads -/

/-- The errors that loading a template does not turn into one about the template. -/
inductive Unloadable (root : Path) (path : String) : Error → Prop
  | null (null : '\x00' ∈ path.toList) : Unloadable root path .nullInPath
  | overlong {place : Path} (located : locateTemplate root path = .ok place) (long : place.IsOverlong) :
      Unloadable root path (.file .nameTooLong place.text)

/-- What loading a template from `root` can come to. -/
inductive Disk.Loads (d : Disk) (encoding : Encoding) (root : Path) (path : String) : Except Error String → Prop
  /-- The text of a regular file in the root. -/
  | text {place : Path} {content : Bytes} {text : String} (located : locateTemplate root path = .ok place)
      (inside : root.Inside place) (file : d.tree.entry? place.parts = some (.file content))
      (decoded : Text.read encoding content = .ok text) : Loads d encoding root path (.ok text)
  | refused (reason : String) : Loads d encoding root path (.error (.notFound path root.text reason))
  | escaped {e : Error} (unloadable : Unloadable root path e) : Loads d encoding root path (.error e)

/-- A path that has no place leads out of the root, or has a null character. -/
theorem locateTemplate_error {root : Path} {path : String} {e : Error} (h : locateTemplate root path = .error e) :
    e = .notFound path root.text "path escapes the template root" ∨ e = .nullInPath ∧ '\x00' ∈ path.toList := by
  by_cases hmem : '\x00' ∈ path.toList
  · rcases (Path.ofString path).checkNull_cases with hnull | hnull
    · rw [locateTemplate_eq root hnull] at h
      split at h
      · cases h
      · cases h
        exact .inl rfl
    · rw [locateTemplate_of_null hnull] at h
      cases h
      exact .inr ⟨rfl, hmem⟩
  · obtain ⟨place, hplace, -⟩ | hescapes := locateTemplate_confined root hmem
    · rw [hplace] at h
      cases h
    · rw [hescapes] at h
      cases h
      exact .inl rfl

namespace Disk

section

variable {d : Disk} (hl : d.tree.Linkless) (encoding : Encoding)

include hl

theorem loads_of_loader {root : Path} (hroot : root.isAbsolute) (path : String) :
    ∃ r, outcome (Workspace.ofDisk.loader encoding root path) d = (r, d) ∧
      d.Loads encoding root path (r.map Source.text) := by
  refine ⟨_, d.outcome_loader encoding root path, ?_⟩
  rw [locate_of_linkless hl hroot]
  cases hplace : locateTemplate root path with
  | error e =>
    obtain rfl | ⟨rfl, hmem⟩ := locateTemplate_error hplace
    · exact .refused _
    · exact .escaped (.null hmem)
  | ok place =>
    obtain ⟨hlong, hfind⟩ | ⟨found, hfind⟩ := d.find_cases_of_length place
    · simp only [bind, Except.bind, hfind]
      exact .escaped (.overlong hplace (hlong.resolve_right hl.not_overlongLink))
    · simp only [bind, Except.bind, hfind]
      cases found with
      | none => exact .refused _
      | some content =>
        have hinside : root.Inside place := locateTemplate_inside hplace
        have habsolute : place.isAbsolute := by
          rw [← (locateTemplate_eq_ok hplace).1]
          rfl
        dsimp only
        cases hdecoded : Text.read encoding content with
        | error flaw => exact .refused flaw.message
        | ok text => exact .text hplace hinside (entry_of_find hl habsolute hinside.no_dots hfind) hdecoded

theorem outcome_load {base : Path} (hbase : base.checkNull = .ok ()) (path : String) :
    outcome (Workspace.ofDisk.load encoding base path) d
      = ((outcome (Workspace.ofDisk.loader encoding (d.directory.resolve base) path) d).1.map Source.text, d) := by
  have hroot := d.outcome_resolve base
  rw [resolve_of_no_null hl hbase] at hroot
  exact (outcome_bind_of_ok hroot _).trans (d.outcome_loadFrom encoding _ path)

theorem loads_of_load {base : Path} (hbase : base.checkNull = .ok ()) (path : String) :
    ∃ r, outcome (Workspace.ofDisk.load encoding base path) d = (r, d) ∧
      d.Loads encoding (d.directory.resolve base) path r := by
  refine ⟨_, outcome_load hl encoding hbase path, ?_⟩
  obtain ⟨r, hr, hloads⟩ := loads_of_loader hl encoding (Path.isAbsolute_resolve d.directory base) path
  rwa [hr]

theorem outcome_load_utf8 {base : Path} (hbase : base.checkNull = .ok ()) (path : String) :
    (outcome (Workspace.ofDisk.load .utf8 base path) d).1
      = (d.answers (d.directory.resolve base) path).map Source.text := by
  rw [outcome_load hl .utf8 hbase]
  rfl

end

end Disk

/-! ### Includes -/

/-- Is the error one that users are shown? -/
def Error.isUserError : Error → Bool
  | malformed _ | tooDeep .. | unsupported .. | notFound .. | cycle .. | evaluation .. | config _ => true
  | _ => false

/-- What a loader fails with is for users, or the path is to blame. -/
theorem unloadable_of_loads {d : Disk} {encoding : Encoding} {root : Path} {path : String} {e : Error}
    (h : d.Loads encoding root path (.error e)) : e.isUserError ∨ Unloadable root path e := by
  cases h with
  | refused reason => exact .inl rfl
  | escaped unloadable => exact .inr unloadable

/-- A step fails with an error for users, with what a call of the context failed with, or at an include of which
no template can be loaded. -/
theorem isUserError_of_fails {σ : Type} {c : Context (StateM σ)} {encoding : Encoding} {root : Path}
    (hroot : root.isAbsolute) {limit : Nat} {s : Stack limit} {w w' : World σ Disk (Call × σ)} {e : Error}
    (hl : w.supply.tree.Linkless) (h : s.Fails c (some (Workspace.ofDisk.loader encoding root)) w w' e) :
    e.isUserError ∨ CallFailed c e w' ∨ ∃ path children blocks,
      s.top.blocks = .directive (.inclusion path) children :: blocks ∧ Unloadable root path e := by
  cases h with
  | unsupported | tooDeep | cycle => exact .inl rfl
  | unread given loaded flawed =>
    obtain ⟨m, rfl⟩ | ⟨activity, rfl⟩ := Render.error_of_parseWithin flawed <;> exact .inl rfl
  | call failed => exact .inr (.inl failed)
  | unloaded given missing =>
    cases given
    obtain ⟨answer, hanswer⟩ : ∃ answer : Except Error Source, answer = .error e := ⟨_, rfl⟩
    rw [← hanswer] at missing
    cases missing with
    | @intro path children blocks next =>
      obtain ⟨r, hr, hloads⟩ := Disk.loads_of_loader hl encoding hroot path
      rw [hr] at hanswer
      subst hanswer
      obtain huser | hpath := unloadable_of_loads hloads
      · exact .inl huser
      · exact .inr (.inr ⟨path, children, blocks, next, hpath⟩)

/-- The render of `blocks` from `w₀` gets to an include for which loading has the error `e`, as no template can be
loaded for it. -/
def Render.MeetsUnloadable {σ : Type} (c : Context (StateM σ)) (encoding : Encoding) (root : Path) (limit : Nat)
    (blocks : List Block) (w₀ : World σ Disk (Call × σ)) (e : Error) : Prop :=
  ∃ (opened : List Block) (s : Stack limit) (w : World σ Disk (Call × σ)) (path : String) (children rest : List Block),
    Reached (c.recorded Prod.mk) (some (Workspace.ofDisk.loader encoding root).supplied) blocks w₀ opened s w ∧
      s.top.blocks = .directive (.inclusion path) children :: rest ∧ Unloadable root path e

/-- A render leaves the disk from which it loads templates as it is. -/
theorem supply_of_reached {σ : Type} {c : Context (StateM σ)} {encoding : Encoding} {root : Path} {limit : Nat}
    {blocks opened : List Block} {w₀ w : World σ Disk (Call × σ)} {s : Stack limit}
    (h : Reached (c.recorded Prod.mk) (some (Workspace.ofDisk.loader encoding root).supplied) blocks w₀ opened s w) :
    w.supply = w₀.supply := by
  refine h.keeps (P := fun w => w.supply = w₀.supply) (Render.step_keeping ?_ ?_ ?_) rfl
  · exact fun expression w hw => hw
  · exact Coupling.Acts.transform (C := .keeping _) (fun name w hw => hw) (fun name value w hw => hw)
      (fun name w hw => hw) (fun expression w hw => hw) fun event w hw => hw
  · refine Coupling.Acts.includedBlocks (C := .keeping _) (fun event w hw => hw) (.some fun path w hw => ?_) limit
    change (outcome (Workspace.ofDisk.loader encoding root path) w.supply).2 = _
    rw [Disk.outcome_loader]
    exact hw

/-- Where nothing is a link, loading a template leaves the disk alone and gives the text of a regular file in the root
or an error that names the path and the root, unless the path has a null character or is too long. An include ends a
render with an error that is not for users only if its path is such a one. -/
theorem Workspace.load_contained {d : Disk} (hl : d.tree.Linkless) (encoding : Encoding) {base : Path}
    (hbase : base.checkNull = .ok ()) :
    let root := d.directory.resolve base
    (∀ path, ∃ r, outcome (ofDisk.load encoding base path) d = (r, d) ∧ d.Loads encoding root path r) ∧
      ∀ {σ : Type} (c : Context (StateM σ)) (limit : Nat) (blocks : List Block) (w₀ w' : World σ Disk (Call × σ))
        (e : Error), w₀.supply.tree.Linkless →
        outcome (generate (c.recorded Prod.mk) (some (ofDisk.loader encoding root).supplied) limit blocks)
          w₀ = (.error e, w') →
        e.isUserError ∨ CallFailed c e w' ∨ Render.MeetsUnloadable c encoding root limit blocks w₀ e := by
  intro root
  refine ⟨fun path => Disk.loads_of_load hl encoding hbase path, ?_⟩
  intro σ c limit blocks w₀ w' e hw₀ hrender
  obtain ⟨opened, s, w, reached, hstep⟩ := Render.exists_failing_step hrender
  have hsupply : w.supply.tree.Linkless := by rwa [supply_of_reached reached]
  have hfails : s.Fails c (some (ofDisk.loader encoding root)) w w' e := fails_of_step hstep
  obtain huser | hcall | ⟨path, children, rest, next, hpath⟩ := isUserError_of_fails rfl hsupply hfails
  · exact .inl huser
  · exact .inr (.inl hcall)
  · exact .inr (.inr ⟨opened, s, w, path, children, rest, reached, next, hpath⟩)

/-- A template that is there, and an include whose path has a null character. -/
theorem Workspace.load_contained_null :
    let d : Disk := ⟨⟨[(["t"], .directory), (["t", "a"], .file [120])]⟩, ⟨1, []⟩⟩
    let base : Path := ⟨0, ["t"]⟩
    let root := d.directory.resolve base
    let blocks : List Block := [.text "x", .directive (.inclusion "a\x00") []]
    let w : World _ _ _ := ⟨[], d, []⟩
    let render := outcome (generate (Render.noticing.recorded Prod.mk)
      (some (ofDisk.loader .utf8 root).supplied) 9 blocks) w
    d.tree.Linkless ∧ base.checkNull = .ok () ∧ outcome (ofDisk.load .utf8 base "a") d = (.ok "x", d) ∧
      d.Loads .utf8 root "a" (.ok "x") ∧ render = (.error .nullInPath, w) ∧
      (Error.isUserError .nullInPath ∨ CallFailed Render.noticing .nullInPath w ∨
        Render.MeetsUnloadable Render.noticing .utf8 root 9 blocks w .nullInPath) := by
  intro d base root blocks w render
  have hl : d.tree.Linkless := by decide
  have hbase : base.checkNull = .ok () := Path.checkNull_eq_ok.2 (by decide)
  have htext : (outcome (ofDisk.load .utf8 base "a") d).1 = .ok "x" := by
    have hplace : locateTemplate (d.directory.resolve base) "a" = .ok ⟨1, ["t", "a"]⟩ := by
      simp only [d, base]
      cbv
    have hfind : d.find ⟨1, ["t", "a"]⟩ = .ok (some [120]) := by
      simp only [d]
      cbv
    have hdecoded : Text.read .utf8 [120] = .ok "x" := by cbv
    have hlocate : d.locate (d.directory.resolve base) "a" = .ok ⟨1, ["t", "a"]⟩ :=
      (Disk.locate_of_linkless hl rfl "a").trans hplace
    rw [Disk.outcome_load_utf8 hl hbase, d.answers_of_place hlocate, Disk.textAt_of_found _ _ hfind, hdecoded]
    rfl
  have hrender : render = (.error .nullInPath, w) := by
    simp only [render, blocks, w, root, d, base]
    cbv
  obtain ⟨hloads, hrenders⟩ := load_contained hl .utf8 hbase
  obtain ⟨r, hr, hloaded⟩ := hloads "a"
  have hload : outcome (ofDisk.load .utf8 base "a") d = (.ok "x", d) := by
    rw [hr] at htext ⊢
    exact congrArg (·, d) htext
  obtain rfl : r = .ok "x" := congrArg Prod.fst (hr.symm.trans hload)
  exact ⟨hl, hbase, hload, hloaded, hrender, hrenders Render.noticing 9 blocks w w .nullInPath hl hrender⟩

/-- In `t`, the place of a template with a name of one byte too many. -/
def overlongTemplate : Path := ⟨1, ["t", overlongName]⟩

theorem overlongTemplate_size : overlongTemplate.text.utf8ByteSize ≤ FileTree.longestPath := by
  have htext : overlongTemplate.text = "/" ++ ("t" ++ "/" ++ overlongName) := rfl
  have hname : overlongName.utf8ByteSize = 256 := by decide +kernel
  rw [htext]
  simp only [String.utf8ByteSize_append, hname]
  decide

theorem locate_overlongTemplate :
    FileTree.locate ⟨[(["t"], .directory)]⟩ ⟨1, []⟩ overlongTemplate = .error .nameTooLong := by
  have hlong : FileTree.isTooLong overlongName := by decide +kernel
  have hdots : overlongName ≠ ".." := by decide +kernel
  have hstop : FileTree.Follows ⟨[(["t"], .directory)]⟩ FileTree.mostLinks [] overlongTemplate.parts
      (.stopped .nameTooLong ["t"] [overlongName]) :=
    .enter ⟨rfl, by decide, by decide⟩ (e := .directory) (by decide) rfl (.stop (.nameTooLong (by decide) hdots hlong))
  have horigin : FileTree.origin (Path.parts ⟨1, []⟩) overlongTemplate = [] := rfl
  rw [FileTree.locate_of_short overlongTemplate_size, horigin, hstop.eq]
  rfl

/-- A path with a null character and a name of one byte too many: neither is reported as a template that cannot be
loaded, and an include of the first ends a render with an error that is not for users. -/
theorem Workspace.load_uncontained :
    let d : Disk := ⟨⟨[(["t"], .directory)]⟩, ⟨1, []⟩⟩
    let base : Path := ⟨0, ["t"]⟩
    let load (path : String) := (outcome (ofDisk.load .utf8 base path) d).1
    let render (text : String) := (outcome (ofDisk.renderText Expr.engine text [] (some base) 9) d).1
    d.tree.Linkless ∧ load "a\x00" = .error .nullInPath ∧
      load overlongName = .error (.file .nameTooLong overlongTemplate.text) ∧
      render "!!% include a\x00\n%!!\n" = .error .nullInPath ∧ Error.isUserError .nullInPath = false := by
  intro d base load render
  have hl : d.tree.Linkless := by decide
  have hbase : base.checkNull = .ok () := Path.checkNull_eq_ok.2 (by decide)
  have hroot : d.directory.resolve base = ⟨1, ["t"]⟩ := rfl
  have hresolved : d.resolve base = .ok ⟨1, ["t"]⟩ := Disk.resolve_of_no_null hl hbase
  have hnull : d.answers ⟨1, ["t"]⟩ "a\x00" = .error .nullInPath := by
    refine d.answers_of_error ?_
    rw [Disk.locate_of_linkless hl rfl]
    cbv
  have hlong : load overlongName = .error (.file .nameTooLong overlongTemplate.text) := by
    have hplace : locateTemplate ⟨1, ["t"]⟩ overlongName = .ok overlongTemplate := by
      have hwritten : Path.ofString overlongName = ⟨0, [overlongName]⟩ := by
        have hchars : overlongName.toList = List.replicate 256 'n' := String.toList_ofList
        rw [Path.ofString, hchars]
        decide +kernel
      have hresolve : Path.resolve ⟨1, ["t"]⟩ ⟨0, [overlongName]⟩ = overlongTemplate := by decide +kernel
      rw [locateTemplate_eq _ (Path.checkNull_ofString overlongName_no_null), hwritten, hresolve]
      rfl
    have hfind : d.find overlongTemplate = .error .nameTooLong :=
      Disk.find_of_fault (Path.checkNull_eq_ok.2 (by simp [overlongTemplate, overlongName_no_null]))
        locate_overlongTemplate rfl
    have hlocate : d.locate ⟨1, ["t"]⟩ overlongName = .ok overlongTemplate :=
      (Disk.locate_of_linkless hl rfl overlongName).trans hplace
    simp only [load]
    rw [Disk.outcome_load_utf8 hl hbase, hroot, d.answers_of_place hlocate, Disk.textAt_of_fault _ _ hfind]
    rfl
  refine ⟨hl, ?_, hlong, ?_, rfl⟩
  · simp only [load]
    rw [Disk.outcome_load_utf8 hl hbase, hroot, hnull]
    rfl
  · have hparse : Template.parseWithin 9 "!!% include a\x00\n%!!\n" = .ok [.directive (.inclusion "a\x00") []] := by cbv
    simp only [render]
    rw [d.outcome_renderText_inclusion _ hresolved rfl (by decide) hparse hnull]

end Stencil
