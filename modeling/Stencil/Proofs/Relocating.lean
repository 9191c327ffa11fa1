import Mathlib
import Stencil.Proofs.ConfigFiles

/-!
# Configurations away from where they were loaded

Relative paths start at the working directory, absolute ones at the top. Main statement: each path of a
configuration that was loaded is absolute, so in any other working directory the same template is rendered, with
the same includes, to the same output or to the same error.
-/
namespace Stencil

open Render (Source outcome outcome_bind outcome_bind_of_ok outcome_bind_eq_ok)
open Yaml (Data)

/-! ### Absolute paths -/

namespace Path

theorem isAbsolute_join {p : Path} (h : p.isAbsolute) (q : Path) : (p.join q).isAbsolute := by
  unfold join
  split
  · assumption
  · exact h

/-- An absolute path is resolved alike in every directory. -/
theorem resolve_of_isAbsolute {p : Path} (h : p.isAbsolute) (base base' : Path) :
    base.resolve p = base'.resolve p := by
  have hjoin (base : Path) : base.join p = p := if_pos h
  rw [resolve, resolve, hjoin, hjoin]

theorem isAbsolute_up {p : Path} (h : p.isAbsolute) : p.up.isAbsolute := by
  unfold up
  split
  · rwa [if_pos h]
  · split <;> exact h

theorem isAbsolute_origin {here : Path} (h : here.isAbsolute) (p : Path) : (here.origin p).isAbsolute := by
  unfold origin
  split
  · rfl
  · exact h

end Path

namespace FileTree

/-- Is the path absolute whose links were taken away? -/
def Unlinked.isAbsolute : Unlinked → Bool
  | plain p | looped p => p.isAbsolute
  | tooNested => true

section

variable (t : FileTree) (here elsewhere : Path)

/-- The links of an absolute path are the same in every directory, and absolute without them it stays. By the links
inside of links, and then by the parts. -/
theorem unlink_of_isAbsolute (depth : Nat) (active : List Path) {done : Path} (h : done.isAbsolute) (parts : List String) :
    t.unlink here depth active done parts = t.unlink elsewhere depth active done parts ∧
      (t.unlink here depth active done parts).isAbsolute := by
  induction depth using Nat.strongRecOn generalizing active done parts with
  | ind depth shallower =>
    induction parts generalizing done with
    | nil =>
      rw [unlink_nil, unlink_nil]
      exact ⟨rfl, h⟩
    | cons part rest ih =>
      have hchild : (done.child part).isAbsolute := h
      rw [unlink_cons, unlink_cons, Path.resolve_of_isAbsolute hchild here elsewhere]
      split
      · exact ih (Path.isAbsolute_up h)
      · split
        · rename_i target _
          split
          · exact ⟨rfl, h⟩
          · cases depth with
            | zero => exact ⟨rfl, rfl⟩
            | succ depth =>
              obtain ⟨hsame, hinner⟩ := shallower depth (Nat.lt_succ_self _) (done.child part :: active)
                (Path.isAbsolute_origin h target) target.parts
              dsimp only
              rw [← hsame]
              cases hw : t.unlink here depth (done.child part :: active) (done.origin target) target.parts with
              | plain place =>
                rw [hw] at hinner
                exact ih hinner
              | looped p =>
                rw [hw] at hinner
                exact ⟨rfl, hinner⟩
              | tooNested => exact ⟨rfl, rfl⟩
        · exact ih hchild

variable {p : Path} (h : p.isAbsolute)

include h

theorem locate_of_isAbsolute : t.locate here p = t.locate elsewhere p := by
  have horigin (directory : Path) : origin directory.parts p = [] := if_pos h
  rw [locate, locate, walk, walk, horigin, horigin]

theorem resolve_of_isAbsolute : t.resolve here p = t.resolve elsewhere p := by
  have horigin : Path.origin ⟨0, []⟩ p = ⟨1, []⟩ := if_pos h
  obtain ⟨hsame, habsolute⟩ := t.unlink_of_isAbsolute here elsewhere deepestLink []
    (show Path.isAbsolute ⟨1, []⟩ from rfl) p.parts
  rw [resolve, resolve, horigin, ← hsame]
  have hplace {q : Path} (hq : q.isAbsolute) :
      t.locate here (here.resolve q) = t.locate elsewhere (elsewhere.resolve q) := by
    rw [Path.resolve_of_isAbsolute hq here elsewhere]
    exact t.locate_of_isAbsolute here elsewhere rfl
  cases hw : t.unlink here deepestLink [] ⟨1, []⟩ p.parts with
  | plain q | looped q =>
    rw [hw] at habsolute
    dsimp only
    rw [hplace habsolute, Path.resolve_of_isAbsolute habsolute here elsewhere]
  | tooNested => rfl

end

end FileTree

/-! ### Renders in another directory -/

namespace Disk

section

variable (tree : FileTree) (here elsewhere : Path) {p : Path} (h : p.isAbsolute)

include h

theorem follow_of_isAbsolute : Disk.follow ⟨tree, here⟩ p = Disk.follow ⟨tree, elsewhere⟩ p := by
  rw [follow, follow, tree.resolve_of_isAbsolute here elsewhere h]

theorem resolve_of_isAbsolute : Disk.resolve ⟨tree, here⟩ p = Disk.resolve ⟨tree, elsewhere⟩ p := by
  rw [resolve, resolve, follow_of_isAbsolute tree here elsewhere h]

theorem find_of_isAbsolute : Disk.find ⟨tree, here⟩ p = Disk.find ⟨tree, elsewhere⟩ p :=
  find_congr (tree.locate_of_isAbsolute here elsewhere h) fun _ _ => rfl

end

theorem isAbsolute_of_follow {d : Disk} {p place : Path} (h : d.follow p = .ok place) : place.isAbsolute := by
  unfold follow FileTree.resolve at h
  split at h
  · split at h <;> cases h
    rfl
  · split at h <;> cases h
    rfl
  · cases h

theorem isAbsolute_of_resolve {d : Disk} {p place : Path} (h : d.resolve p = .ok place) : place.isAbsolute := by
  obtain ⟨-, -, h⟩ := Template.bind_eq_ok.1 h
  exact isAbsolute_of_follow h

theorem isAbsolute_of_locate {d : Disk} {root place : Path} {path : String} (h : d.locate root path = .ok place) :
    place.isAbsolute := by
  obtain ⟨-, -, h⟩ := Template.bind_eq_ok.1 h
  obtain ⟨place', hplace, h⟩ := Template.bind_eq_ok.1 h
  split at h <;> cases h
  exact isAbsolute_of_follow hplace

/-- From an absolute root, the loader looks at absolute paths only. -/
theorem answers_eq_elsewhere (tree : FileTree) (here elsewhere : Path) {root : Path} (hroot : root.isAbsolute) :
    Disk.answers ⟨tree, here⟩ root = Disk.answers ⟨tree, elsewhere⟩ root := by
  funext path
  have hlocate : Disk.locate ⟨tree, here⟩ root path = Disk.locate ⟨tree, elsewhere⟩ root path := by
    rw [locate, locate, follow_of_isAbsolute tree here elsewhere (Path.isAbsolute_join hroot _)]
  cases hplace : Disk.locate ⟨tree, elsewhere⟩ root path with
  | error e => rw [answers_of_error _ (hlocate.trans hplace), answers_of_error _ hplace]
  | ok place =>
    rw [answers_of_place _ (hlocate.trans hplace), answers_of_place _ hplace, textAt, textAt,
      find_of_isAbsolute tree here elsewhere (isAbsolute_of_locate hplace)]

/-- The output of a template file is that of its text, with includes from the directory above it. -/
theorem outcome_renderFile (en : Expr.Engine) (d : Disk) (p : Path) (values : List (String × Expr.Value)) (limit : Int) :
    outcome (Workspace.ofDisk.renderFile en p values limit) d
      = (d.resolve p.parent >>= fun root => (d.answers root p.name).map Source.text >>= fun text =>
          renderAnswers en ((d.resolve root).map d.answers) text values limit, d) := by
  refine outcome_bind_still (d.outcome_resolve p.parent) fun root _ => ?_
  refine outcome_bind_still (d.outcome_loadFrom .utf8 root p.name) fun text _ => ?_
  exact d.outcome_renderText en root text values limit

theorem outcome_renderFile_elsewhere (en : Expr.Engine) (tree : FileTree) (here elsewhere : Path) {p : Path}
    (h : p.isAbsolute) (values : List (String × Expr.Value)) (limit : Int) :
    outcome (Workspace.ofDisk.renderFile en p values limit) ⟨tree, elsewhere⟩
      = ((outcome (Workspace.ofDisk.renderFile en p values limit) ⟨tree, here⟩).1, ⟨tree, elsewhere⟩) := by
  have hparent : Disk.resolve ⟨tree, elsewhere⟩ p.parent = Disk.resolve ⟨tree, here⟩ p.parent :=
    resolve_of_isAbsolute tree elsewhere here (p := p.parent) h
  rw [outcome_renderFile, outcome_renderFile, hparent]
  cases hroot : Disk.resolve ⟨tree, here⟩ p.parent with
  | error e => rfl
  | ok root =>
    have habsolute : root.isAbsolute := isAbsolute_of_resolve hroot
    have hagain : (Disk.resolve ⟨tree, elsewhere⟩ root).map (Disk.answers ⟨tree, elsewhere⟩)
        = (Disk.resolve ⟨tree, here⟩ root).map (Disk.answers ⟨tree, here⟩) := by
      rw [resolve_of_isAbsolute tree elsewhere here habsolute]
      cases hbase : Disk.resolve ⟨tree, here⟩ root with
      | error e => rfl
      | ok base => exact congrArg Except.ok (answers_eq_elsewhere tree elsewhere here (isAbsolute_of_resolve hbase))
    refine Prod.ext ?_ rfl
    change (Disk.answers ⟨tree, elsewhere⟩ root p.name).map Source.text >>= (fun text => renderAnswers en
      ((Disk.resolve ⟨tree, elsewhere⟩ root).map (Disk.answers ⟨tree, elsewhere⟩)) text values limit) = _
    rw [hagain, answers_eq_elsewhere tree elsewhere here habsolute]
    rfl

end Disk

/-! ### Configurations -/

namespace Config

/-- Every path of the configuration is absolute. -/
structure Anchored (c : Config) : Prop where
  root : c.root.isAbsolute
  template : ∀ p ∈ c.template, p.isAbsolute
  output : ∀ p ∈ c.output, p.isAbsolute

theorem anchored_empty {root : Path} (h : root.isAbsolute) : (empty root).Anchored :=
  ⟨h, by simp [empty], by simp [empty]⟩

theorem isAbsolute_pathIn {root : Path} (h : root.isAbsolute) (written : Option String) :
    ∀ p ∈ pathIn root written, p.isAbsolute := by
  intro p hp
  unfold pathIn at hp
  split at hp
  · cases hp
  · cases hp
  · cases hp
    exact Path.isAbsolute_join h _

theorem anchored_ofEntries {entries : List (Data × Data)} {root : Path} (hroot : root.isAbsolute) {c : Config}
    (h : ofEntries entries root = .ok c) : c.Anchored := by
  obtain ⟨-, -, h⟩ := Template.bind_eq_ok.1 h
  obtain ⟨template, -, h⟩ := Template.bind_eq_ok.1 h
  obtain ⟨output, -, h⟩ := Template.bind_eq_ok.1 h
  obtain ⟨bindings, -, h⟩ := Template.bind_eq_ok.1 h
  obtain ⟨limit, -, h⟩ := Template.bind_eq_ok.1 h
  cases h
  exact ⟨hroot, isAbsolute_pathIn hroot template, isAbsolute_pathIn hroot output⟩

/-- With absolute paths, the working directory does not matter. -/
theorem Anchored.outcome_renderConfig {c : Config} (h : c.Anchored) (en : Expr.Engine) (tree : FileTree)
    (here elsewhere : Path) :
    outcome (Workspace.ofDisk.renderConfig en c) ⟨tree, elsewhere⟩
      = ((outcome (Workspace.ofDisk.renderConfig en c) ⟨tree, here⟩).1, ⟨tree, elsewhere⟩) := by
  unfold Workspace.renderConfig
  cases htemplate : c.template with
  | none => rfl
  | some p => exact Disk.outcome_renderFile_elsewhere en tree here elsewhere (h.template p htemplate) _ _

end Config

namespace Workspace

variable {d d' : Disk} {root : Path} {asked : Option Path}

theorem isAbsolute_of_resolve {p place : Path} (h : outcome (ofDisk.files.resolve p) d = (.ok place, d')) :
    place.isAbsolute := by
  rw [d.outcome_resolve] at h
  exact Disk.isAbsolute_of_resolve (congrArg Prod.fst h)

/-- A configuration file is found by its resolved path. -/
theorem isAbsolute_of_findConfig {found : Option Path}
    (h : outcome (ofDisk.findConfig root asked) d = (.ok found, d')) : ∀ p ∈ found, p.isAbsolute := by
  intro p hp
  cases asked with
  | some path =>
    obtain ⟨place, d₁, hplace, h⟩ := outcome_bind_eq_ok h
    cases h
    cases hp
    exact isAbsolute_of_resolve hplace
  | none =>
    obtain ⟨place, d₁, hplace, h⟩ := outcome_bind_eq_ok h
    obtain ⟨there, d₂, -, h⟩ := outcome_bind_eq_ok h
    cases h
    cases there with
    | false => cases hp
    | true =>
      cases hp
      exact isAbsolute_of_resolve hplace

theorem anchored_of_loadConfig {reader : Yaml.Reader} {c : Config}
    (h : outcome (ofDisk.loadConfig reader root asked) d = (.ok c, d')) :
    c.Anchored := by
  obtain ⟨found, d₁, hfound, h⟩ := outcome_bind_eq_ok h
  cases found with
  | none =>
    obtain ⟨place, d₂, hplace, h⟩ := outcome_bind_eq_ok h
    cases h
    exact Config.anchored_empty (isAbsolute_of_resolve hplace)
  | some path =>
    have hpath : path.isAbsolute := isAbsolute_of_findConfig hfound path rfl
    obtain ⟨there, d₂, -, h⟩ := outcome_bind_eq_ok h
    cases there with
    | false => cases h
    | true =>
      obtain ⟨entries, d₃, -, h⟩ := outcome_bind_eq_ok h
      have hparent : path.parent.isAbsolute := hpath
      exact Config.anchored_ofEntries hparent (congrArg Prod.fst h)

/-- A configuration that was loaded can be rendered from anywhere. Its paths are absolute, and in every working
directory it is rendered to the same output or to the same error, the disk staying as it is. -/
theorem loadConfig_relocatable {reader : Yaml.Reader} {tree : FileTree} {here : Path} {c : Config}
    (h : (outcome (ofDisk.loadConfig reader root asked) ⟨tree, here⟩).1 = .ok c) :
    c.Anchored ∧ ∀ (en : Expr.Engine) elsewhere, outcome (ofDisk.renderConfig en c) ⟨tree, elsewhere⟩
      = ((outcome (ofDisk.renderConfig en c) ⟨tree, here⟩).1, ⟨tree, elsewhere⟩) := by
  have hanchored : c.Anchored := anchored_of_loadConfig (Prod.ext h rfl)
  exact ⟨hanchored, fun en => hanchored.outcome_renderConfig en tree here⟩

/-- A configuration in another directory, with a template beside that directory. -/
theorem loadConfig_relocatable_into :
    let tree : FileTree := ⟨[(["w"], .directory),
      (["w", "c"], .file (Text.encodeUtf8 "{template: ../a}")), (["a"], .file [104, 105])]⟩
    let load := outcome (ofDisk.loadConfig Yaml.read ⟨0, []⟩ (some ⟨0, ["w", "c"]⟩)) ⟨tree, ⟨1, []⟩⟩
    let c : Config := { Config.empty ⟨1, ["w"]⟩ with template := some ⟨1, ["w", "..", "a"]⟩ }
    let render (here : Path) := outcome (ofDisk.renderConfig Expr.engine c) ⟨tree, here⟩
    load.1 = .ok c ∧ c.Anchored ∧ (render ⟨1, []⟩).1 = .ok "hi" ∧ (render ⟨1, ["w"]⟩).1 = .ok "hi" := by
  intro tree load c render
  let d : Disk := ⟨tree, ⟨1, []⟩⟩
  have hl : d.tree.Linkless := by
    simp [d, tree, FileTree.Linkless, Entry.isLink]
  have hload : load.1 = .ok c := by
    have hdecoded : Text.read .utf8 (Text.encodeUtf8 "{template: ../a}")
        = .ok "{template: ../a}" := by
      cbv
    have hplace : d.configPlace ⟨0, []⟩ (some ⟨0, ["w", "c"]⟩) = .ok ⟨1, ["w", "c"]⟩ :=
      Disk.resolve_of_no_null hl (Path.checkNull_eq_ok.2 (by decide))
    have hfind : d.find ⟨1, ["w", "c"]⟩ = .ok (some (Text.encodeUtf8 "{template: ../a}")) := by
      simp only [d]
      cbv
    simp only [load]
    rw [Disk.outcome_loadConfig_of_found hplace hfind, Disk.entriesOf, hdecoded]
    decide +kernel
  have hrender : (render ⟨1, []⟩).1 = .ok "hi" := by
    have hanswer : d.answers ⟨1, []⟩ "a" = .ok ⟨"hi", some "/a"⟩ := by
      have hplace : locateTemplate ⟨1, []⟩ "a" = .ok ⟨1, ["a"]⟩ := by cbv
      have hlocate : d.locate ⟨1, []⟩ "a" = .ok ⟨1, ["a"]⟩ := (Disk.locate_of_linkless hl rfl "a").trans hplace
      have hfind : d.find ⟨1, ["a"]⟩ = .ok (some [104, 105]) := by
        simp only [d]
        cbv
      have hdecoded : Text.read .utf8 [104, 105] = .ok "hi" := by cbv
      rw [Disk.answers_of_place _ hlocate, Disk.textAt_of_found _ _ hfind, hdecoded]
      rfl
    have hlimit : Template.checkLimit 100 = .ok 100 := rfl
    have hparse : Template.parseWithin 100 "hi" = .ok [.text "hi"] := by cbv
    have hroot : d.resolve (Path.parent ⟨1, ["w", "..", "a"]⟩) = .ok ⟨1, []⟩ :=
      Disk.resolve_of_no_null hl (Path.checkNull_eq_ok.2 (by decide))
    have hbase : d.resolve ⟨1, []⟩ = .ok ⟨1, []⟩ := Disk.resolve_of_no_null hl rfl
    have hfile := Disk.outcome_renderFile Expr.engine d ⟨1, ["w", "..", "a"]⟩ [] 100
    have hname : Path.name ⟨1, ["w", "..", "a"]⟩ = "a" := rfl
    rw [hroot] at hfile
    simp only [hname, hanswer, hbase, Disk.renderAnswers, hlimit, Except.map, bind, Except.bind, hparse] at hfile
    refine (congrArg Prod.fst hfile).trans ?_
    cbv
  obtain ⟨hanchored, helsewhere⟩ := loadConfig_relocatable hload
  refine ⟨hload, hanchored, hrender, ?_⟩
  simp only [render]
  rw [helsewhere Expr.engine]
  exact hrender

end Workspace

end Stencil
