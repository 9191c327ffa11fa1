import Mathlib
import Stencil.Proofs.Disk

/-!
# Renders confined to a directory

A template text can spell any path. The loader looks for templates in its root only, and looking there does
not tell what lies outside, although following a path from the top passes the directories above the root. Main
statement: over two trees without links that agree in the root, a render has one result, if the root exists or
its names are such as a directory may have.
-/
namespace Stencil

open Render (Loader outcome)

/-! ### Trees that agree in the root -/

namespace FileTree

/-- The trees have the same entries at `root` and below. -/
def AgreeIn (root : List String) (t t' : FileTree) : Prop :=
  ∀ rest, t.entry? (root ++ rest) = t'.entry? (root ++ rest)

/-- What is not there is absent for the machine, unless a name is too long. -/
theorem Linkless.absent_of_none {t : FileTree} (ht : t.Rooted) (hl : t.Linkless) {place : List String}
    (hdots : ".." ∉ place) (hshort : ∀ name ∈ place, ¬ isTooLong name) (hnone : t.entry? place = none)
    (links : Nat) : ∃ fault above rest, t.follow links [] place = .stopped fault above rest ∧ fault.isAbsence := by
  have hfollow := t.follows_follow links [] place
  cases hwalk : t.follow links [] place with
  | arrived place' left =>
    rw [hwalk] at hfollow
    obtain ⟨⟨e, hentry, -⟩, -⟩ := hfollow.standing ht t.standing_nil
    obtain rfl : place' = place := by simpa using hl.place_eq hdots hfollow
    exact absurd hentry (by simp [Walk.place, hnone])
  | stopped fault above rest =>
    rw [hwalk] at hfollow
    refine ⟨fault, above, rest, rfl, ?_⟩
    obtain habsence | ⟨-, ⟨name, hname, hlong⟩ | hlink⟩ := hfollow.fault_cases
    · exact habsence
    · exact absurd hlong (hshort name hname)
    · exact absurd hlink hl.not_overlongLink

theorem AgreeIn.follows {t t' : FileTree} {root : List String} (h : AgreeIn root t t') (hl : t.Linkless) {links : Nat}
    (done : List String) {rest : List String} {w : Walk} (hdots : ".." ∉ rest)
    (hfollow : t.Follows links (root ++ done) rest w) : t'.Follows links (root ++ done) rest w := by
  induction rest generalizing done with
  | nil =>
    cases hfollow
    exact .nil
  | cons part rest ih =>
    have hnext : t.entry? (root ++ done ++ [part]) = t'.entry? (root ++ done ++ [part]) := by
      simpa using h (done ++ [part])
    have still (seeks : t.Seeks (root ++ done) part) : t'.Seeks (root ++ done) part :=
      ⟨(h done).symm.trans seeks.directory, seeks.ne_dots, seeks.short⟩
    cases hfollow with
    | stop stops =>
      refine .stop ?_
      cases stops with
      | notDirectory other => exact .notDirectory (h done ▸ other)
      | nameTooLong directory dots long => exact .nameTooLong ((h done).symm.trans directory) dots long
      | missing seeks entry => exact .missing (still seeks) (hnext.symm.trans entry)
      | tooManyLinks seeks entry => cases hl.entry entry
    | up => exact absurd List.mem_cons_self hdots
    | enter seeks entry plain later =>
      rw [List.append_assoc] at later
      have hlater := ih _ (fun hdots' => hdots (List.mem_cons_of_mem _ hdots')) later
      rw [← List.append_assoc] at hlater
      exact .enter (still seeks) (hnext.symm.trans entry) plain hlater
    | link seeks entry => cases hl.entry entry

theorem AgreeIn.follow_eq {t t' : FileTree} {root : List String} (h : AgreeIn root t t') (hl : t.Linkless) (links : Nat)
    {rest : List String} (hdots : ".." ∉ rest) : t.follow links root rest = t'.follow links root rest := by
  have hwalk : t.Follows links (root ++ []) rest (t.follow links root rest) := by
    simpa using t.follows_follow links root rest
  simpa using (h.follows hl [] hdots hwalk).eq.symm

end FileTree

section

variable {tree tree' : FileTree} (ht : tree.Rooted) (ht' : tree'.Rooted) (hl : tree.Linkless) (hl' : tree'.Linkless)

section

variable {root p : Path} (h : FileTree.AgreeIn root.parts tree tree')
  (hshort : ∀ name ∈ root.parts, ¬ FileTree.isTooLong name) (habsolute : p.isAbsolute)
  (hroot : root.parts <+: p.parts) (hdots : ".." ∉ p.parts)

include ht ht' hl hl' h hshort habsolute hroot hdots

/-- Where trees agree, they have the same file. -/
theorem Disk.find_eq_of_agreeIn (directory : Path) : Disk.find ⟨tree, directory⟩ p = Disk.find ⟨tree', directory⟩ p := by
  by_cases hlong : p.text.utf8ByteSize ≤ FileTree.longestPath
  · obtain ⟨rest, hrest⟩ := hroot
    rw [← hrest, List.mem_append, not_or] at hdots
    have hlocate (tree : FileTree) :
        tree.locate directory p = (tree.follow FileTree.mostLinks [] (root.parts ++ rest)).result := by
      have horigin : FileTree.origin directory.parts p = [] := if_pos habsolute
      rw [FileTree.locate_of_short hlong, horigin, hrest]
    have hsame : tree.entry? root.parts = tree'.entry? root.parts := by simpa using h []
    -- A root that is there is reached in both trees. One that is not ends the search before it is reached,
    -- maybe for different reasons, as the directories on the way are outside of it.
    cases hentry : tree.entry? root.parts with
    | some e =>
      have hthere : tree.Standing root.parts := ⟨⟨e, hentry, hl.entry hentry⟩, hdots.1⟩
      have hthere' : tree'.Standing root.parts := ⟨⟨e, hsame ▸ hentry, hl.entry hentry⟩, hdots.1⟩
      have hfollow : tree.follow FileTree.mostLinks root.parts rest = tree'.follow FileTree.mostLinks root.parts rest :=
        h.follow_eq hl FileTree.mostLinks hdots.2
      refine find_congr ?_ fun place hplace => ?_
      · change tree.locate directory p = tree'.locate directory p
        rw [hlocate, hlocate, ht.follow_through hthere, ht'.follow_through hthere', hfollow]
      · change tree.locate directory p = .ok place at hplace
        rw [hlocate, ht.follow_through hthere] at hplace
        obtain ⟨left, hleft⟩ := FileTree.Walk.result_eq_ok.1 hplace
        have hwalk := tree.follows_follow FileTree.mostLinks root.parts rest
        rw [hleft] at hwalk
        rw [hl.place_eq hdots.2 hwalk]
        exact h rest
    | none =>
      have hgone (tree : FileTree) (ht : tree.Rooted) (hl : tree.Linkless) (hentry : tree.entry? root.parts = none) :
          Disk.find ⟨tree, directory⟩ p = .ok none := by
        obtain ⟨fault, above, left, hstop, habsence⟩ := hl.absent_of_none ht hdots.1 hshort hentry FileTree.mostLinks
        refine find_of_absent (d := ⟨tree, directory⟩) ?_ habsence
        rw [hlocate tree, FileTree.follow_append, hstop]
        rfl
      rw [hgone tree ht hl hentry, hgone tree' ht' hl' (hsame ▸ hentry)]
  · refine find_congr ((FileTree.locate_of_long hlong).trans (FileTree.locate_of_long hlong).symm) fun place hplace => ?_
    cases (FileTree.locate_of_long hlong).symm.trans hplace

end

variable (directory base : Path) (h : FileTree.AgreeIn (directory.resolve base).parts tree tree')
  (hroot : (tree.entry? (directory.resolve base).parts).isSome ∨
    ∀ name ∈ (directory.resolve base).parts, ¬ FileTree.isTooLong name)

include ht ht' hl hl' h hroot

theorem Disk.answers_eq_of_agreeIn :
    Disk.answers ⟨tree, directory⟩ (directory.resolve base) = Disk.answers ⟨tree', directory⟩ (directory.resolve base) := by
  funext path
  have hlocate (tree : FileTree) (hl : tree.Linkless) :
      Disk.locate ⟨tree, directory⟩ (directory.resolve base) path = locateTemplate (directory.resolve base) path :=
    locate_of_linkless (d := ⟨tree, directory⟩) hl rfl path
  rw [answers_eq, answers_eq, hlocate tree hl, hlocate tree' hl']
  cases hplace : locateTemplate (directory.resolve base) path with
  | error e => rfl
  | ok place =>
    -- The loader looks at `place` alone, and does not tell for which reason nothing is there.
    obtain ⟨hslashes, hparts, hdots⟩ := locateTemplate_inside hplace
    have hshort : ∀ name ∈ (directory.resolve base).parts, ¬ FileTree.isTooLong name := hroot.elim ht.short id
    have habsolute : place.isAbsolute := by simp [Path.isAbsolute, hslashes, Path.resolve]
    have hfind := Disk.find_eq_of_agreeIn ht ht' hl hl' h hshort habsolute hparts hdots directory
    change Except.map _ _ = Except.map _ _
    rw [textAt, textAt, hfind]

/-- Includes cannot see outside of the root. Over trees without links that agree there, a render has the same
result. And each path leads to a place in the root or is refused. -/
theorem Workspace.renderText_confined (en : Expr.Engine) (text : String) (values : List (String × Expr.Value))
    (limit : Int) :
    let render (tree : FileTree) :=
      (outcome (Workspace.ofDisk.renderText en text values (some base) limit) ⟨tree, directory⟩).1
    let root := directory.resolve base
    let locate (path : String) := outcome (Workspace.ofDisk.locate root path) ⟨tree, directory⟩
    render tree = render tree' ∧ ∀ path : String, '\x00' ∉ path.toList →
      (∃ place, locate path = (.ok place, ⟨tree, directory⟩) ∧ root.Inside place) ∨
        locate path = (.error (.notFound path root.text "path escapes the template root"), ⟨tree, directory⟩) := by
  intro render root locate
  refine ⟨?_, fun path hpath => ?_⟩
  · have hanswers : Disk.answers ⟨tree, directory⟩ root = Disk.answers ⟨tree', directory⟩ root :=
      Disk.answers_eq_of_agreeIn ht ht' hl hl' directory base h hroot
    simp only [render, Disk.outcome_renderText, Disk.resolve_of_linkless (d := ⟨tree, directory⟩) hl,
      Disk.resolve_of_linkless (d := ⟨tree', directory⟩) hl']
    cases base.checkNull with
    | error e => rfl
    | ok u =>
      change (Disk.renderAnswers en (.ok (Disk.answers ⟨tree, directory⟩ root)) text values limit)
        = Disk.renderAnswers en (.ok (Disk.answers ⟨tree', directory⟩ root)) text values limit
      rw [hanswers]
  · have hlocate : locate path = (locateTemplate root path, ⟨tree, directory⟩) := by
      rw [← Disk.locate_of_linkless (d := ⟨tree, directory⟩) hl (rfl : root.isAbsolute = true) path]
      exact Disk.outcome_locate _ root path
    rw [hlocate]
    obtain ⟨place, hplace, hinside⟩ | hescapes := locateTemplate_confined root hpath
    · exact .inl ⟨place, by rw [hplace], hinside⟩
    · exact .inr (by rw [hescapes])

end

/-- Beside the root, a file with a name that an include spells. -/
theorem Workspace.renderText_sibling_unseen :
    let tree : FileTree := ⟨[(["t"], .directory), (["t", "a"], .file [65])]⟩
    let tree' : FileTree := tree.set ["tt"] (.file [66])
    let directory : Path := ⟨1, []⟩
    let base : Path := ⟨0, ["t"]⟩
    let render (tree : FileTree) :=
      (outcome (Workspace.ofDisk.renderText Expr.engine "!!% include a\n%!!\n!!% include ../tt\n%!!\n" [] (some base) 9)
        ⟨tree, directory⟩).1
    tree.Rooted ∧ tree'.Rooted ∧ tree.Linkless ∧ tree'.Linkless ∧
      FileTree.AgreeIn (directory.resolve base).parts tree tree' ∧
      (tree.entry? (directory.resolve base).parts).isSome ∧ render tree = render tree' := by
  intro tree tree' directory base render
  have ht : tree.Rooted := by decide
  have ht' : tree'.Rooted := by decide
  have hl : tree.Linkless := by decide
  have hl' : tree'.Linkless := by decide
  have hagree : FileTree.AgreeIn (directory.resolve base).parts tree tree' := by
    intro rest
    have hroot : (directory.resolve base).parts = ["t"] := by decide
    exact (FileTree.entry?_set_of_ne tree (by simp [hroot]) _).symm
  have hroot : (tree.entry? (directory.resolve base).parts).isSome := by decide
  exact ⟨ht, ht', hl, hl', hagree, hroot,
    (Workspace.renderText_confined ht ht' hl hl' directory base hagree (.inl hroot) Expr.engine _ [] 9).1⟩

/-! ### Roots that cannot exist -/

/-- One byte more than a name may have. -/
def overlongName : String := String.ofList (List.replicate 256 'n')

/-- Where a template is that is looked for in a directory with that name. -/
def overlongPlace : Path := ⟨1, ["a", overlongName, "x"]⟩

theorem overlongName_no_null : '\x00' ∉ overlongName.toList := by
  have hname (n : Nat) : '\x00' ∉ (String.ofList (List.replicate n 'n')).toList := by
    simp
  exact hname 256

theorem overlongPlace_size : overlongPlace.text.utf8ByteSize ≤ FileTree.longestPath := by
  have htext : overlongPlace.text = "/" ++ ("a" ++ "/" ++ overlongName ++ "/" ++ "x") := rfl
  have hname : overlongName.utf8ByteSize = 256 := by decide +kernel
  rw [htext]
  simp only [String.utf8ByteSize_append, hname]
  decide

theorem locate_overlongPlace_missing : FileTree.empty.locate ⟨1, []⟩ overlongPlace = .error .missing := by
  have hstop : FileTree.empty.Follows FileTree.mostLinks [] overlongPlace.parts
      (.stopped .missing [] overlongPlace.parts) := .stop (.missing ⟨rfl, by decide, by decide⟩ rfl)
  have horigin : FileTree.origin (Path.parts ⟨1, []⟩) overlongPlace = [] := rfl
  rw [FileTree.locate_of_short overlongPlace_size, horigin, hstop.eq]
  rfl

theorem locate_overlongPlace_tooLong :
    FileTree.locate ⟨[(["a"], .directory)]⟩ ⟨1, []⟩ overlongPlace = .error .nameTooLong := by
  have hlong : FileTree.isTooLong overlongName := by decide +kernel
  have hdots : overlongName ≠ ".." := by decide +kernel
  have hstop : FileTree.Follows ⟨[(["a"], .directory)]⟩ FileTree.mostLinks [] overlongPlace.parts
      (.stopped .nameTooLong ["a"] [overlongName, "x"]) :=
    .enter ⟨rfl, by decide, by decide⟩ (e := .directory) (by decide) rfl (.stop (.nameTooLong (by decide) hdots hlong))
  have horigin : FileTree.origin (Path.parts ⟨1, []⟩) overlongPlace = [] := rfl
  rw [FileTree.locate_of_short overlongPlace_size, horigin, hstop.eq]
  rfl

/-- A root that does not exist, with a name that is too long: whether the directory above it exists decides
which error a render has. -/
theorem Workspace.renderText_unconfined_overlong :
    let tree : FileTree := .empty
    let tree' : FileTree := ⟨[(["a"], .directory)]⟩
    let directory : Path := ⟨1, []⟩
    let base : Path := ⟨0, ["a", overlongName]⟩
    let render (tree : FileTree) :=
      (outcome (Workspace.ofDisk.renderText Expr.engine "!!% include x\n%!!\n" [] (some base) 9) ⟨tree, directory⟩).1
    tree.Rooted ∧ tree'.Rooted ∧ tree.Linkless ∧ tree'.Linkless ∧
      FileTree.AgreeIn (directory.resolve base).parts tree tree' ∧ render tree ≠ render tree' := by
  intro tree tree' directory base render
  have hroot : directory.resolve base = ⟨1, ["a", overlongName]⟩ := by decide +kernel
  have hplace : locateTemplate (directory.resolve base) "x" = .ok overlongPlace := by
    have hwithin : (directory.resolve base).isWithin overlongPlace := by decide +kernel
    have hresolve : (directory.resolve base).resolve (.ofString "x") = overlongPlace := by decide +kernel
    rw [locateTemplate_eq _ (Path.checkNull_ofString (by decide)), hresolve, if_pos hwithin]
  have hnull : base.checkNull = .ok () := Path.checkNull_eq_ok.2 (by simp [base, overlongName_no_null])
  have hnull' : overlongPlace.checkNull = .ok () :=
    Path.checkNull_eq_ok.2 (by simp [overlongPlace, overlongName_no_null])
  have hparse : Template.parseWithin 9 "!!% include x\n%!!\n" = .ok [.directive (.inclusion "x") []] := by cbv
  have hrender (tree : FileTree) (hl : tree.Linkless) {e : Error}
      (h : Disk.textAt ⟨tree, directory⟩ overlongPlace
          (.notFound "x" (directory.resolve base).text "file not found") (.notFound "x" (directory.resolve base).text)
        = .error e) : render tree = .error e := by
    have hbase : Disk.resolve ⟨tree, directory⟩ base = .ok (directory.resolve base) :=
      Disk.resolve_of_no_null (d := ⟨tree, directory⟩) hl hnull
    have hlocate : Disk.locate ⟨tree, directory⟩ (directory.resolve base) "x" = .ok overlongPlace :=
      (Disk.locate_of_linkless (d := ⟨tree, directory⟩) hl rfl "x").trans hplace
    have hanswer : Disk.answers ⟨tree, directory⟩ (directory.resolve base) "x" = .error e := by
      rw [Disk.answers_of_place _ hlocate, h]
      rfl
    simp only [render]
    rw [Disk.outcome_renderText_inclusion _ _ hbase rfl (by decide) hparse hanswer]
  have habsent := hrender tree (by decide)
    (Disk.textAt_of_absent _ _ (Disk.find_of_absent (d := ⟨tree, directory⟩) locate_overlongPlace_missing rfl))
  have hfault := hrender tree' (by decide)
    (Disk.textAt_of_fault _ _ (Disk.find_of_fault (d := ⟨tree', directory⟩) hnull' locate_overlongPlace_tooLong rfl))
  refine ⟨by decide, by decide, by decide, by decide, ?_, ?_⟩
  · intro rest
    rw [hroot]
    simp [tree, tree', FileTree.entry?, FileTree.empty, List.lookup_cons]
  · rw [habsent, hfault]
    simp

end Stencil
