import Mathlib
import Stencil.Proofs.Disk
import Stencil.Proofs.Template.Descent

/-!
# Template files

The blocks of a template file are read from the path as it is written. A render of the file resolves the
directory above it first, and finds the template there as it finds an include. Main statement: where the
double dots of a path leave directories that are there, both read one file, so the blocks that are loaded are
the blocks that are rendered, unless a link leads out of the directory; a file that cannot be read is reported by
each in its own way.
-/
namespace Stencil

open Render (Action Source outcome outcome_bind outcome_bind_of_ok outcome_liftExcept)
open Template (Block)
open Text (Bytes)

/-! ### Paths as they are written -/

namespace Path

theorem checkNull_cases (p : Path) : p.checkNull = .ok () ∨ p.checkNull = .error .nullInPath := by
  unfold checkNull
  split
  · exact .inr rfl
  · exact .inl rfl

/-- A path is its name, seen from the directory above. -/
theorem parts_eq (p : Path) : p.parts = [] ∧ p.name = "" ∨ p.parts = p.parent.parts ++ [p.name] := by
  obtain hparts | ⟨above, last, hparts⟩ := p.parts.eq_nil_or_concat
  · exact .inl ⟨hparts, by simp [name, hparts]⟩
  · exact .inr (by simp [parent, name, hparts])

theorem checkNull_of_name {p : Path} (hparent : p.parent.checkNull = .ok ()) (hname : '\x00' ∉ p.name.toList) :
    p.checkNull = .ok () := by
  rw [checkNull_eq_ok] at hparent ⊢
  obtain ⟨hparts, -⟩ | hsplit := p.parts_eq
  · simp [hparts]
  · intro part hpart
    rw [hsplit, List.mem_append, List.mem_singleton] at hpart
    obtain hpart | rfl := hpart
    · exact hparent part hpart
    · exact hname

theorem checkNull_parent {p : Path} (h : p.checkNull = .ok ()) : p.parent.checkNull = .ok () := by
  rw [checkNull_eq_ok] at h ⊢
  exact fun part hpart => h part (List.dropLast_subset _ hpart)

theorem no_null_name {p : Path} (h : p.checkNull = .ok ()) : '\x00' ∉ p.name.toList := by
  rw [checkNull_eq_ok] at h
  obtain ⟨-, hname⟩ | hsplit := p.parts_eq
  · simp [hname]
  · exact h p.name (by rw [hsplit]; simp)

/-- The name of a path reads as the part that the directory above lacks. -/
theorem ofString_name {p : Path} (h : p.Spellable) :
    (ofString p.name).isAbsolute = false ∧ p.parts = p.parent.parts ++ (ofString p.name).parts := by
  obtain ⟨hparts, hname⟩ | hsplit := p.parts_eq
  · have hempty : ofString "" = ⟨0, []⟩ := by decide
    rw [hname, hempty, parent, hparts]
    exact ⟨rfl, rfl⟩
  · have hname : IsComponent p.name := h.components _ (by rw [hsplit]; simp)
    have hone : Spellable ⟨0, [p.name]⟩ := ⟨by simp, by simpa using hname⟩
    have htext : text ⟨0, [p.name]⟩ = p.name := by simp [text]
    have hread : ofString p.name = ⟨0, [p.name]⟩ := by rw [← htext, ofString_text hone, htext]
    rw [hread]
    exact ⟨rfl, hsplit⟩

theorem no_null_of_spelled {p : Path} (h : p.Spellable) (hnull : (ofString p.name).checkNull = .ok ()) :
    '\x00' ∉ p.name.toList := by
  obtain ⟨-, hname⟩ | hsplit := p.parts_eq
  · simp [hname]
  · have hparts := (ofString_name h).2
    rw [checkNull_eq_ok, ← List.append_cancel_left (hsplit.symm.trans hparts)] at hnull
    exact hnull p.name (by simp)

end Path

/-! ### A render of a template file -/

namespace Workspace

variable {m : Type → Type} [Monad m] (w : Workspace m)

/-- What a render of a template file reads before it generates: where its includes come from, and its
blocks. -/
def readTemplate (path : Path) (limit : Int) : Action m (Path × List Block) := do
  let root ← w.files.resolve path.parent
  let text ← w.loadFrom .utf8 root path.name
  let limit ← Template.checkLimit limit
  let blocks ← Render.parseReported w.report limit text
  return (root, blocks)

/-- The output of blocks, with includes from `root`. -/
def renderBlocks (en : Expr.Engine) (values : List (String × Expr.Value)) (limit : Nat) (root : Path)
    (blocks : List Block) : Action m String := do
  let bindings ← Expr.Bindings.ofValues values
  let root ← (some root).mapM w.files.resolve
  let inner : Workspace (StateT en.Memory m) := w.lift
  let output := Render.generate (en.context inner.report) (root.map (inner.loader .utf8)) limit blocks
  let (result, _) ← ExceptT.lift (output.run.run (.fresh en bindings))
  result

/-- What follows a result matters for that result alone. -/
theorem liftExcept_bind_congr [LawfulMonad m] {α β : Type} {r : Except Error α} {f g : α → Action m β}
    (h : ∀ a, r = .ok a → f a = g a) : (liftM r >>= f : Action m β) = liftM r >>= g := by
  cases r with
  | ok a =>
    change (pure a >>= f : Action m β) = pure a >>= g
    rw [pure_bind, pure_bind, h a rfl]
  | error e =>
    have herror (f : α → Action m β) : (liftM (.error e : Except Error α) >>= f : Action m β) = throw e :=
      ExceptT.ext (pure_bind _ _)
    rw [herror f, herror g]

theorem renderFile_eq [LawfulMonad m] (en : Expr.Engine) (path : Path) (values : List (String × Expr.Value))
    (limit : Int) : w.renderFile en path values limit
      = w.readTemplate path limit >>= fun (root, blocks) => w.renderBlocks en values limit.toNat root blocks := by
  unfold renderFile renderText readTemplate
  simp only [bind_assoc, pure_bind]
  refine bind_congr fun root => bind_congr fun text => liftExcept_bind_congr fun n hn => ?_
  have hlimit : limit.toNat = n := by
    unfold Template.checkLimit at hn
    split at hn <;> cases hn
    rfl
  rw [hlimit]
  rfl

end Workspace

/-! ### Paths that can be followed -/

/-- A program can run in the working directory of the disk, and its links have targets that paths may have. -/
structure Disk.Usable (d : Disk) : Prop where
  rooted : d.tree.Rooted
  directory : d.tree.entry? d.directory.parts = some .directory
  no_dots : ".." ∉ d.directory.parts
  no_null : d.directory.checkNull = .ok ()
  links_no_null : ∀ place target, (place, Entry.link target) ∈ d.tree.entries → target.checkNull = .ok ()

/-- Where a path leads, or would lead if what is missing were there. -/
def Disk.goal? (d : Disk) (p : Path) : Option (List String) :=
  (d.tree.follow FileTree.mostLinks (FileTree.origin d.directory.parts p) p.parts).goal?

/-- The path does not run out of links, and each of its double dots leaves a directory that is there. -/
def Disk.Reaches (d : Disk) (p : Path) : Prop := (d.goal? p).isSome

/-- A path that is not too long to be followed. -/
def Path.IsShort (p : Path) : Prop := p.text.utf8ByteSize ≤ FileTree.longestPath
  deriving Decidable

namespace Disk

variable {d : Disk}

theorem reaches_of_find {p : Path} {content : Bytes} (h : d.find p = .ok (some content)) :
    d.Reaches p ∧ p.IsShort := by
  obtain ⟨place, hlocate, -⟩ := find_eq_found h
  rw [FileTree.locate] at hlocate
  cases hwalk : d.tree.walk d.directory p with
  | stopped =>
    rw [hwalk] at hlocate
    cases hlocate
  | arrived place' links =>
    obtain ⟨hshort, hfollow⟩ := FileTree.walk_eq hwalk (by simp)
    refine ⟨?_, hshort⟩
    rw [Reaches, goal?, hfollow.eq]
    rfl

section

variable (hd : d.Usable)

include hd

theorem Usable.standing : d.tree.Standing d.directory.parts := ⟨⟨.directory, hd.directory, rfl⟩, hd.no_dots⟩

section

variable {p : Path} {goal : List String} (hgoal : d.goal? p = some goal)

include hgoal

theorem Usable.resolve_eq (hnull : p.checkNull = .ok ()) : d.resolve p = .ok ⟨1, goal⟩ := by
  rw [resolve, hnull, follow, hd.rooted.resolve_of_follow hd.standing hgoal]
  rfl

/-- A goal is its own goal. -/
theorem Usable.goal?_goal : d.goal? ⟨1, goal⟩ = some goal := by
  have hagain := hd.rooted.follow_goal (hd.standing.origin p) hgoal FileTree.mostLinks
  change (d.tree.follow FileTree.mostLinks [] goal).goal? = some goal
  rw [hagain, FileTree.Walk.goal?_renew]
  exact hgoal

theorem Usable.checkNull_goal (hnull : p.checkNull = .ok ()) : Path.checkNull ⟨1, goal⟩ = .ok () := by
  rw [Path.checkNull_eq_ok] at hnull ⊢
  refine (d.tree.follows_follow _ _ _).forall_goal (fun place target hlink => ?_) ?_ hnull hgoal
  · exact Path.checkNull_eq_ok.1 (hd.links_no_null place target hlink)
  · unfold FileTree.origin
    split
    · exact List.forall_mem_nil _
    · exact Path.checkNull_eq_ok.1 hd.no_null

/-- The file at a path is the file at its goal. -/
theorem Usable.find_goal (hnull : p.checkNull = .ok ()) (hshort : p.IsShort) (hwhole : Path.IsShort ⟨1, goal⟩) :
    d.find ⟨1, goal⟩ = d.find p := by
  have hlocate : d.tree.locate d.directory ⟨1, goal⟩ = d.tree.locate d.directory p := by
    rw [FileTree.locate_of_short hwhole, FileTree.locate_of_short hshort]
    change (d.tree.follow FileTree.mostLinks [] goal).result = _
    rw [hd.rooted.follow_goal (hd.standing.origin p) hgoal, FileTree.Walk.result_renew]
  rw [find, find, hlocate, hnull, hd.checkNull_goal hgoal hnull]

/-- The name of a path leads from the goal of the directory above it to the goal of the path. -/
theorem Usable.goal?_name (hp : p.Spellable) :
    ∃ above, d.goal? p.parent = some above ∧ d.goal? (Path.join ⟨1, above⟩ (.ofString p.name)) = some goal := by
  obtain ⟨hrelative, hsplit⟩ := Path.ofString_name hp
  have hparent : FileTree.origin d.directory.parts p.parent = FileTree.origin d.directory.parts p := rfl
  have hjoin (above : List String) : Path.join ⟨1, above⟩ (.ofString p.name)
      = ⟨1, above ++ (Path.ofString p.name).parts⟩ := if_neg (by simp [hrelative])
  have hwhole := hgoal
  rw [goal?, hsplit, FileTree.follow_append] at hwhole
  have hwalk := d.tree.follows_follow FileTree.mostLinks (FileTree.origin d.directory.parts p) p.parent.parts
  cases hw : d.tree.follow FileTree.mostLinks (FileTree.origin d.directory.parts p) p.parent.parts with
  | arrived place left =>
    rw [hw] at hwhole hwalk
    change (d.tree.follow left place _).goal? = _ at hwhole
    refine ⟨place, by rw [goal?, hparent, hw]; rfl, ?_⟩
    have hplace : d.tree.Standing place := hwalk.standing hd.rooted (hd.standing.origin p)
    have hmore := FileTree.follow_add (FileTree.Walk.isTangled_of_goal? hwhole) (FileTree.mostLinks - left)
    rw [Nat.add_sub_cancel' hwalk.links_le] at hmore
    rw [hjoin]
    change (d.tree.follow FileTree.mostLinks [] _).goal? = _
    rw [hd.rooted.follow_through hplace, hmore, FileTree.Walk.goal?_allow, hwhole]
  | stopped fault place rest =>
    rw [hw] at hwhole
    obtain ⟨hfault, hdots, heq⟩ := FileTree.Walk.goal?_stopped hwhole
    rw [List.mem_append, not_or] at hdots
    refine ⟨place ++ rest, by rw [goal?, hparent, hw, FileTree.Walk.goal?_of_stopped hfault hdots.1], ?_⟩
    rw [hjoin, List.append_assoc, ← heq]
    exact hd.goal?_goal hgoal

end

end

/-! ### The text of a template file -/

section

variable (d) {p : Path}

/-- What is reported where there is no template file. -/
def absentTemplate (p : Path) : Error :=
  match d.resolve p.parent with
  | .ok root => .notFound p.name root.text "file not found"
  | .error e => e

/-- The blocks of a template file come from the text at the path as it is written. -/
theorem outcome_loadTemplate (p : Path) (limit : Int) :
    outcome (Workspace.ofDisk.loadTemplate p limit) d
      = (d.textAt p (d.absentTemplate p) .undecodable >>= Template.parse limit, d) := by
  have hfile := d.outcome_isFile p
  cases hfind : d.find p with
  | error fault =>
    rw [hfind] at hfile
    rw [textAt_of_fault _ _ hfind, Workspace.loadTemplate, outcome_bind, hfile]
    rfl
  | ok found =>
    rw [hfind] at hfile
    cases found with
    | none =>
      rw [textAt_of_absent _ _ hfind, Workspace.loadTemplate, outcome_bind_of_ok hfile, Option.isSome_none,
        Bool.not_false, if_pos rfl, outcome_bind, d.outcome_resolve, absentTemplate]
      cases d.resolve p.parent <;> rfl
    | some content =>
      rw [textAt_of_found _ _ hfind, Workspace.loadTemplate, outcome_bind_of_ok hfile]
      refine outcome_bind_still (d.outcome_readText .utf8 hfind) fun text _ => ?_
      refine outcome_bind_still (outcome_liftExcept _ d) fun limit _ => ?_
      exact d.outcome_parseReported limit text

theorem outcome_readTemplate (p : Path) (limit : Int) :
    outcome (Workspace.ofDisk.readTemplate p limit) d
      = (d.resolve p.parent >>= fun root => (d.answers root p.name).map Source.text >>= fun text =>
          (Template.parse limit text).map (root, ·), d) := by
  refine outcome_bind_still (d.outcome_resolve p.parent) fun root _ => ?_
  refine outcome_bind_still (d.outcome_loadFrom .utf8 root p.name) fun text _ => ?_
  have hparse : (Template.parse limit text).map (root, ·)
      = Template.checkLimit limit >>= fun limit => (Template.parseWithin limit text).map (root, ·) := by
    unfold Template.parse
    cases Template.checkLimit limit <;> rfl
  rw [hparse]
  refine outcome_bind_still (outcome_liftExcept _ d) fun limit _ => ?_
  rw [outcome_bind, d.outcome_parseReported]
  cases Template.parseWithin limit text <;> rfl

end

/-- Blocks are loaded from a file that is found. -/
theorem find_of_loadTemplate {d : Disk} {p : Path} {limit : Int} {blocks : List Block}
    (h : (outcome (Workspace.ofDisk.loadTemplate p limit) d).1 = .ok blocks) :
    ∃ content, d.find p = .ok (some content) := by
  rw [d.outcome_loadTemplate] at h
  cases htext : d.textAt p (d.absentTemplate p) .undecodable with
  | error e =>
    rw [htext] at h
    cases h
  | ok text => exact textAt_eq_ok htext

/-! ### Templates loaded and rendered -/

/-- How a failure to load the blocks of a template file comes out of a render of the file. A file that a link
leads to elsewhere than in the directory above it is refused before. -/
def asRendered (d : Disk) (p : Path) (e : Error) : Error :=
  match d.resolve p.parent, d.resolve p with
  | .ok root, .ok place =>
    if root.isWithin place then
      match e with
      | .undecodable detail => .notFound p.name root.text detail
      | .file fault _ => .file fault place.text
      | e => e
    else .notFound p.name root.text "path escapes the template root"
  | _, _ => e

section

variable {d : Disk} {p root place : Path} (hroot : d.resolve p.parent = .ok root) (hplace : d.resolve p = .ok place)

include hroot hplace

theorem asRendered_of_within (hwithin : root.isWithin place) (e : Error) :
    d.asRendered p e = match e with
      | .undecodable detail => .notFound p.name root.text detail
      | .file fault _ => .file fault place.text
      | e => e := by
  simp only [asRendered, hroot, hplace, hwithin, if_true]

theorem asRendered_of_not_within (h : ¬ root.isWithin place) (e : Error) :
    d.asRendered p e = .notFound p.name root.text "path escapes the template root" := by
  simp only [asRendered, hroot, hplace, if_neg h]

/-- The failures of reading blocks from a text stay. -/
theorem asRendered_parse (hwithin : root.isWithin place) (limit : Int) (text : String) :
    (Template.parse limit text).mapError (d.asRendered p) = Template.parse limit text := by
  unfold Template.parse Template.checkLimit
  split
  · exact congrArg Except.error (asRendered_of_within hroot hplace hwithin _)
  · change (Template.parseWithin limit.toNat text).mapError (d.asRendered p)
      = Template.parseWithin limit.toNat text
    cases hparse : Template.parseWithin limit.toNat text with
    | ok blocks => rfl
    | error e =>
      refine congrArg Except.error ((asRendered_of_within hroot hplace hwithin e).trans ?_)
      obtain ⟨m, rfl⟩ | ⟨activity, rfl⟩ := Render.error_of_parseWithin hparse <;> rfl

end

section

variable {d : Disk} (hd : d.Usable) {p : Path} (hp : p.Spellable) {goal : List String} (hgoal : d.goal? p = some goal)

include hd hp hgoal

/-- The place of a template is the goal of its path. -/
theorem Usable.locate_name (hnull : p.checkNull = .ok ()) {root : Path} (hroot : d.resolve p.parent = .ok root) :
    d.locate root p.name = if root.isWithin ⟨1, goal⟩ then .ok ⟨1, goal⟩
      else .error (.notFound p.name root.text "path escapes the template root") := by
  obtain ⟨above, habove, hname⟩ := hd.goal?_name hgoal hp
  rw [hd.resolve_eq habove (Path.checkNull_parent hnull)] at hroot
  cases hroot
  exact locate_of_ok (Path.no_null_name hnull) (hd.rooted.resolve_of_follow hd.standing hname)

/-- A render of a template file reads the text that is loaded, or tells in its own way why there is none. -/
theorem Usable.answers_name (hnull : p.checkNull = .ok ()) (hshort : p.IsShort) (hwhole : Path.IsShort ⟨1, goal⟩)
    {root : Path} (hroot : d.resolve p.parent = .ok root) :
    (d.answers root p.name).map Source.text
      = if root.isWithin ⟨1, goal⟩ then (d.textAt p (d.absentTemplate p) .undecodable).mapError (d.asRendered p)
        else .error (.notFound p.name root.text "path escapes the template root") := by
  have hlocate := hd.locate_name hp hgoal hnull hroot
  by_cases hwithin : root.isWithin ⟨1, goal⟩
  · rw [if_pos hwithin] at hlocate
    have hrendered := asRendered_of_within hroot (hd.resolve_eq hgoal hnull) hwithin
    have hsame := hd.find_goal hgoal hnull hshort hwhole
    have habsent : d.absentTemplate p = .notFound p.name root.text "file not found" := by
      rw [absentTemplate, hroot]
    rw [if_pos hwithin, d.answers_of_place hlocate, habsent]
    cases hfind : d.find p with
    | error fault =>
      rw [textAt_of_fault _ _ (hsame.trans hfind), textAt_of_fault _ _ hfind, Except.mapError, hrendered]
      rfl
    | ok found =>
      cases found with
      | none =>
        rw [textAt_of_absent _ _ (hsame.trans hfind), textAt_of_absent _ _ hfind, Except.mapError, hrendered]
        rfl
      | some content =>
        rw [textAt_of_found _ _ (hsame.trans hfind), textAt_of_found _ _ hfind]
        cases Text.read .utf8 content with
        | ok text => rfl
        | error flaw => exact congrArg Except.error (hrendered (.undecodable flaw.message)).symm
  · rw [if_neg hwithin] at hlocate
    rw [if_neg hwithin, d.answers_of_error hlocate]
    rfl

/-- A render of a template file reads the blocks that are loaded, or tells in its own way why there are none. -/
theorem Usable.readTemplate_eq (hnull : p.checkNull = .ok ()) (hshort : p.IsShort) (hwhole : Path.IsShort ⟨1, goal⟩)
    {root : Path} (hroot : d.resolve p.parent = .ok root) (limit : Int) :
    outcome (Workspace.ofDisk.readTemplate p limit) d
      = (if root.isWithin ⟨1, goal⟩ then
          ((outcome (Workspace.ofDisk.loadTemplate p limit) d).1.mapError (d.asRendered p)).map (root, ·)
        else .error (.notFound p.name root.text "path escapes the template root"), d) := by
  have hanswer := hd.answers_name hp hgoal hnull hshort hwhole hroot
  rw [d.outcome_readTemplate, d.outcome_loadTemplate, hroot]
  refine Prod.ext ?_ rfl
  change (d.answers root p.name).map Source.text >>= _ = _
  by_cases hwithin : root.isWithin ⟨1, goal⟩
  · rw [if_pos hwithin] at hanswer ⊢
    rw [hanswer]
    cases d.textAt p (d.absentTemplate p) .undecodable with
    | error e => rfl
    | ok text =>
      change (Template.parse limit text).map _ = ((Template.parse limit text).mapError _).map _
      rw [asRendered_parse hroot (hd.resolve_eq hgoal hnull) hwithin]
  · rw [if_neg hwithin] at hanswer ⊢
    rw [hanswer]
    rfl

/-- A render that reads blocks has found a file at the goal. -/
theorem Usable.find_of_readTemplate {limit : Int} {root : Path} {blocks : List Block}
    (h : (outcome (Workspace.ofDisk.readTemplate p limit) d).1 = .ok (root, blocks)) :
    p.checkNull = .ok () ∧ d.resolve p.parent = .ok root ∧ root.isWithin ⟨1, goal⟩ ∧ Path.IsShort ⟨1, goal⟩ := by
  rw [d.outcome_readTemplate] at h
  obtain ⟨root', hroot, h⟩ := Template.bind_eq_ok.1 h
  obtain ⟨text, hanswer, h⟩ := Template.bind_eq_ok.1 h
  obtain rfl : root' = root := by
    cases hparse : Template.parse limit text with
    | error e =>
      rw [hparse] at h
      cases h
    | ok blocks' =>
      rw [hparse] at h
      cases h
      rfl
  have hparent : p.parent.checkNull = .ok () := by
    refine p.parent.checkNull_cases.resolve_right fun hnull => ?_
    rw [resolve, hnull] at hroot
    cases hroot
  have hspelled : (Path.ofString p.name).checkNull = .ok () := by
    refine (Path.checkNull_cases _).resolve_right fun hnull => ?_
    have hlocate : d.locate root' p.name = .error .nullInPath := by
      rw [locate, hnull]
      rfl
    rw [d.answers_of_error hlocate] at hanswer
    cases hanswer
  have hnull := Path.checkNull_of_name hparent (Path.no_null_of_spelled hp hspelled)
  have hlocate := hd.locate_name hp hgoal hnull hroot
  by_cases hwithin : root'.isWithin ⟨1, goal⟩
  · rw [if_pos hwithin] at hlocate
    rw [d.answers_of_place hlocate] at hanswer
    cases htext : d.textAt ⟨1, goal⟩ (.notFound p.name root'.text "file not found") (.notFound p.name root'.text) with
    | error e =>
      rw [htext] at hanswer
      cases hanswer
    | ok text' =>
      obtain ⟨content, hfind⟩ := textAt_eq_ok htext
      exact ⟨hnull, hroot, hwithin, (reaches_of_find hfind).2⟩
  · rw [if_neg hwithin] at hlocate
    rw [d.answers_of_error hlocate] at hanswer
    cases hanswer

/-- The directory above a path that can be followed resolves. -/
theorem Usable.resolve_parent (hnull : p.checkNull = .ok ()) : ∃ root, d.resolve p.parent = .ok root := by
  obtain ⟨above, habove, -⟩ := hd.goal?_name hgoal hp
  exact ⟨_, hd.resolve_eq habove (Path.checkNull_parent hnull)⟩

/-- Blocks that a render reads are loaded. -/
theorem Usable.loadTemplate_of_readTemplate (hshort : p.IsShort) {limit : Int} {root : Path} {blocks : List Block}
    (h : (outcome (Workspace.ofDisk.readTemplate p limit) d).1 = .ok (root, blocks)) :
    (outcome (Workspace.ofDisk.loadTemplate p limit) d).1 = .ok blocks := by
  obtain ⟨hnull, hroot, hwithin, hwhole⟩ := hd.find_of_readTemplate hp hgoal h
  rw [hd.readTemplate_eq hp hgoal hnull hshort hwhole hroot, if_pos hwithin] at h
  cases hload : (outcome (Workspace.ofDisk.loadTemplate p limit) d).1 with
  | ok blocks =>
    rw [hload] at h
    cases h
    rfl
  | error e =>
    rw [hload] at h
    cases h

/-- Where no blocks are loaded, a render reads none. -/
theorem Usable.readTemplate_of_error (hshort : p.IsShort) (hwhole : ∀ place, d.resolve p = .ok place → place.IsShort)
    (hname : '\x00' ∉ p.name.toList) {limit : Int} {e : Error}
    (h : (outcome (Workspace.ofDisk.loadTemplate p limit) d).1 = .error e) :
    outcome (Workspace.ofDisk.readTemplate p limit) d = (.error (d.asRendered p e), d) := by
  obtain hparent | hparent := p.parent.checkNull_cases
  · have hnull := Path.checkNull_of_name hparent hname
    obtain ⟨root, hroot⟩ := hd.resolve_parent hp hgoal hnull
    have hplace := hd.resolve_eq hgoal hnull
    rw [hd.readTemplate_eq hp hgoal hnull hshort (hwhole _ hplace) hroot limit, h]
    by_cases hwithin : root.isWithin ⟨1, goal⟩
    · rw [if_pos hwithin]
      rfl
    · rw [if_neg hwithin, asRendered_of_not_within hroot hplace hwithin]
  · -- A null character in the directory above keeps both from resolving it.
    have hroot : d.resolve p.parent = .error .nullInPath := by
      rw [resolve, hparent]
      rfl
    have hnull : p.checkNull = .error .nullInPath := by
      refine p.checkNull_cases.resolve_left fun hnull => ?_
      rw [Path.checkNull_parent hnull] at hparent
      cases hparent
    have hfind : d.find p = .ok none := by simp only [find, hnull]
    rw [outcome_loadTemplate, textAt_of_absent _ _ hfind, absentTemplate, hroot] at h
    cases h
    rw [outcome_readTemplate, asRendered, hroot]
    rfl

end

/-- Blocks that are loaded are read by a render, unless a link leads out of the directory above the file. -/
theorem Usable.readTemplate_of_loadTemplate {d : Disk} (hd : d.Usable) {p : Path} (hp : p.Spellable) {limit : Int}
    {blocks : List Block} (h : (outcome (Workspace.ofDisk.loadTemplate p limit) d).1 = .ok blocks) :
    ∃ root place, d.resolve p.parent = .ok root ∧ d.resolve p = .ok place ∧
      (place.IsShort → outcome (Workspace.ofDisk.readTemplate p limit) d
        = (if root.isWithin place then .ok (root, blocks)
          else .error (.notFound p.name root.text "path escapes the template root"), d)) := by
  obtain ⟨content, hfind⟩ := find_of_loadTemplate h
  obtain ⟨hreaches, hshort⟩ := reaches_of_find hfind
  obtain ⟨goal, hgoal⟩ := Option.isSome_iff_exists.1 hreaches
  have hnull : p.checkNull = .ok () := checkNull_of_find hfind (by simp)
  obtain ⟨root, hroot⟩ := hd.resolve_parent hp hgoal hnull
  refine ⟨root, ⟨1, goal⟩, hroot, hd.resolve_eq hgoal hnull, fun hwhole => ?_⟩
  rw [hd.readTemplate_eq hp hgoal hnull hshort hwhole hroot limit, h]
  rfl

end Disk

/-- A template file is loaded as it is rendered. A render of the file generates from what `readTemplate` reads.
If blocks are loaded, it generates from just these, or refuses the file if a link leads out of the directory above
it; if loading fails, so does it, with the failure as `asRendered` has it; and if it reads blocks, these are loaded.
For the last two, the path may not run out of links and its double dots have to leave directories that are there,
and for a failure neither may the path or its place be too long nor its name hold a null character. -/
theorem Workspace.loadTemplate_agrees {d : Disk} (hd : d.Usable) (en : Expr.Engine) (written : String) (limit : Int) :
    let path := Path.ofString written
    let load := (outcome (Workspace.ofDisk.loadTemplate path limit) d).1
    let render (values : List (String × Expr.Value)) := outcome (Workspace.ofDisk.renderFile en path values limit) d
    (∀ values, Workspace.ofDisk.renderFile en path values limit = Workspace.ofDisk.readTemplate path limit >>=
      fun (root, blocks) => Workspace.ofDisk.renderBlocks en values limit.toNat root blocks) ∧
    (∀ blocks, load = .ok blocks → ∃ root place, d.resolve path.parent = .ok root ∧ d.resolve path = .ok place ∧
      (place.IsShort → ∀ values, render values =
        if root.isWithin place then outcome (Workspace.ofDisk.renderBlocks en values limit.toNat root blocks) d
        else (.error (.notFound path.name root.text "path escapes the template root"), d))) ∧
    (d.Reaches path → path.IsShort → (∀ place, d.resolve path = .ok place → place.IsShort) →
      '\x00' ∉ path.name.toList → ∀ e, load = .error e → ∀ values, render values = (.error (d.asRendered path e), d)) ∧
    (d.Reaches path → path.IsShort → ∀ read,
      (outcome (Workspace.ofDisk.readTemplate path limit) d).1 = .ok read → load = .ok read.2) := by
  intro path load render
  have hp : path.Spellable := Path.spellable_ofString written
  have hrender (values : List (String × Expr.Value)) :=
    Workspace.ofDisk.renderFile_eq (m := StateM Disk) en path values limit
  refine ⟨hrender, fun blocks hload => ?_, fun hreaches hshort hwhole hname e hload values => ?_,
    fun hreaches hshort read hread => ?_⟩
  · obtain ⟨root, place, hroot, hplace, hread⟩ := hd.readTemplate_of_loadTemplate hp hload
    refine ⟨root, place, hroot, hplace, fun hwhole values => ?_⟩
    have hread := hread hwhole
    change outcome (ofDisk.renderFile en path values limit) d = _
    split
    · rename_i hwithin
      rw [if_pos hwithin] at hread
      rw [hrender, outcome_bind_of_ok hread]
    · rename_i hwithin
      rw [if_neg hwithin] at hread
      rw [hrender, outcome_bind, hread]
  · change outcome (ofDisk.renderFile en path values limit) d = _
    obtain ⟨goal, hgoal⟩ := Option.isSome_iff_exists.1 hreaches
    rw [hrender, outcome_bind, hd.readTemplate_of_error hp hgoal hshort hwhole hname hload]
  · obtain ⟨goal, hgoal⟩ := Option.isSome_iff_exists.1 hreaches
    exact hd.loadTemplate_of_readTemplate hp hgoal hshort hread

/-- A template in the working directory, by a path that leaves the directory and comes back through a link. -/
theorem Workspace.loadTemplate_around :
    let d : Disk := ⟨⟨[(["t"], .directory), (["t", "a"], .file [104, 105]), (["l"], .link ⟨0, ["t"]⟩)]⟩, ⟨1, ["t"]⟩⟩
    let path := Path.ofString "../l/a"
    d.Usable ∧ (outcome (Workspace.ofDisk.loadTemplate path 9) d).1 = .ok [.text "hi"] ∧
      outcome (Workspace.ofDisk.renderFile Expr.engine path [] 9) d
        = outcome (Workspace.ofDisk.renderBlocks Expr.engine [] 9 ⟨1, ["t"]⟩ [.text "hi"]) d := by
  intro d path
  have hd : d.Usable := ⟨by decide, by decide, by decide, Path.checkNull_eq_ok.2 (by decide), by
    intro place target hlink
    obtain ⟨-, rfl⟩ : place = ["l"] ∧ target = ⟨0, ["t"]⟩ := by simpa [d] using hlink
    exact Path.checkNull_eq_ok.2 (by decide)⟩
  have hpath : path = ⟨0, ["..", "l", "a"]⟩ := by decide +kernel
  have hload : (outcome (Workspace.ofDisk.loadTemplate path 9) d).1 = .ok [.text "hi"] := by
    rw [hpath]
    cbv
  obtain ⟨root, place, hroot, hplace, hrender⟩ :=
    (Workspace.loadTemplate_agrees hd Expr.engine "../l/a" 9).2.1 _ hload
  have hnull : path.checkNull = .ok () := Path.checkNull_eq_ok.2 (by decide +kernel)
  have hgoal : d.goal? path = some ["t", "a"] := by
    rw [hpath]
    decide +kernel
  have habove : d.goal? path.parent = some ["t"] := by
    rw [hpath]
    decide +kernel
  rw [hd.resolve_eq habove (Path.checkNull_parent hnull)] at hroot
  rw [hd.resolve_eq hgoal hnull] at hplace
  cases hroot
  cases hplace
  exact ⟨hd, hload, hrender (by decide +kernel) []⟩

/-- A file that cannot be decoded is reported in two ways. A double dot that leaves nothing keeps a template from
being loaded, but not from being rendered. And a link that leads out of its directory keeps a template from being
rendered, but not from being loaded. -/
theorem Workspace.loadTemplate_disagrees :
    let d : Disk := ⟨⟨[(["a"], .file [255]), (["b"], .file []), (["t"], .directory),
      (["t", "l"], .link ⟨0, ["..", "b"]⟩)]⟩, ⟨1, []⟩⟩
    let load (written : String) := (outcome (Workspace.ofDisk.loadTemplate (.ofString written) 9) d).1
    let read (written : String) := (outcome (Workspace.ofDisk.readTemplate (.ofString written) 9) d).1
    let detail := "'utf-8' codec can't decode byte 0xff in position 0: invalid start byte"
    d.Usable ∧ load "a" = .error (.undecodable detail) ∧ read "a" = .error (.notFound "a" "/" detail) ∧
      load "gone/../b" = .error (.notFound "b" "/" "file not found") ∧ read "gone/../b" = .ok (⟨1, []⟩, []) ∧
      load "t/l" = .ok [] ∧ read "t/l" = .error (.notFound "l" "/t" "path escapes the template root") := by
  intro d load read detail
  have hd : d.Usable := ⟨by decide, by decide, by decide, Path.checkNull_eq_ok.2 (by decide), by
    intro place target hlink
    obtain ⟨-, rfl⟩ : place = ["t", "l"] ∧ target = ⟨0, ["..", "b"]⟩ := by simpa [d] using hlink
    exact Path.checkNull_eq_ok.2 (by decide)⟩
  have ha : Path.ofString "a" = ⟨0, ["a"]⟩ := by decide +kernel
  have hb : Path.ofString "gone/../b" = ⟨0, ["gone", "..", "b"]⟩ := by decide +kernel
  have hl : Path.ofString "t/l" = ⟨0, ["t", "l"]⟩ := by decide +kernel
  have htop : d.resolve ⟨0, []⟩ = .ok ⟨1, []⟩ :=
    Disk.resolve_of_ok (Path.checkNull_eq_ok.2 (by simp)) (by decide +kernel)
  have hgone : d.resolve ⟨0, ["gone", ".."]⟩ = .ok ⟨1, []⟩ :=
    Disk.resolve_of_ok (Path.checkNull_eq_ok.2 (by decide)) (by decide +kernel)
  have ht : d.resolve ⟨0, ["t"]⟩ = .ok ⟨1, ["t"]⟩ :=
    Disk.resolve_of_ok (Path.checkNull_eq_ok.2 (by decide)) (by decide +kernel)
  have hanswer {root : Path} (place : Path) {name : String} (hname : '\x00' ∉ name.toList)
      (h : d.tree.resolve d.directory (root.join (.ofString name)) = .ok place) (hwithin : root.isWithin place) :
      d.answers root name = (d.textAt place (.notFound name root.text "file not found")
        (.notFound name root.text)).map fun text => ⟨text, some place.text⟩ :=
    d.answers_of_place ((Disk.locate_of_ok hname h).trans (if_pos hwithin))
  have hread {p root : Path} (hroot : d.resolve p.parent = .ok root) :
      (outcome (Workspace.ofDisk.readTemplate p 9) d).1 = (d.answers root p.name).map Source.text >>= fun text =>
        (Template.parse 9 text).map (root, ·) := by
    rw [d.outcome_readTemplate, hroot]
    rfl
  have habsent : d.find ⟨0, ["gone", "..", "b"]⟩ = .ok none := by cbv
  simp only [load, read, ha, hb, hl]
  refine ⟨hd, by cbv, ?_, ?_, ?_, by cbv, ?_⟩
  · rw [hread (p := ⟨0, ["a"]⟩) htop, hanswer ⟨1, ["a"]⟩ (by decide) (by decide +kernel) (by decide)]
    cbv
  · rw [d.outcome_loadTemplate, Disk.textAt_of_absent _ _ habsent, Disk.absentTemplate]
    change Except.error (match d.resolve ⟨0, ["gone", ".."]⟩ with | .ok root => _ | .error e => e) = _
    rw [hgone]
    exact congrArg Except.error (by decide +kernel)
  · rw [hread (p := ⟨0, ["gone", "..", "b"]⟩) hgone,
      hanswer ⟨1, ["b"]⟩ (by decide) (by decide +kernel) (by decide)]
    cbv
  · have houtside : d.tree.resolve d.directory (Path.join ⟨1, ["t"]⟩ (.ofString "l")) = .ok ⟨1, ["b"]⟩ := by
      decide +kernel
    have hescapes : d.locate ⟨1, ["t"]⟩ "l" = .error (.notFound "l" "/t" "path escapes the template root") :=
      (Disk.locate_of_ok (by decide) houtside).trans (by decide +kernel)
    rw [hread (p := ⟨0, ["t", "l"]⟩) ht]
    change (d.answers ⟨1, ["t"]⟩ "l").map Source.text >>= _ = _
    rw [d.answers_of_error hescapes]
    rfl

end Stencil
