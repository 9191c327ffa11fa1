import Mathlib
import Stencil.Proofs.Disk

/-!
# Writing a file

A file is written in two steps: the directories above it are made, then the file. Main statement: if either
step fails, all files are as before; if both succeed, the file at the path has the text, and the others are
as before.
-/
namespace Stencil

open Render (Action Coupling outcome outcome_bind outcome_bind_of_ok)
open Text (Bytes)

/-! ### Files of a tree -/

namespace FileTree

/-- The content of the file at a place. -/
def file? (t : FileTree) (place : List String) : Option Bytes :=
  match t.entry? place with
  | some (.file content) => some content
  | _ => none

variable {t t' : FileTree} {directory p : Path}

theorem file?_set_file (t : FileTree) {place : List String} (h : place ≠ []) (content : Bytes) :
    (t.set place (.file content)).file? = Function.update t.file? place (some content) := by
  funext other
  by_cases hother : other = place
  · subst hother
    simp [file?, entry?_set_self t h]
  · simp [file?, entry?_set_of_ne t hother, hother]

theorem file?_set_directory {place : List String} (h : t.entry? place = none) :
    (t.set place .directory).file? = t.file? := by
  funext other
  by_cases hother : other = place
  · subst hother
    have hne : other ≠ [] := by
      rintro rfl
      simp at h
    simp [file?, entry?_set_self t hne, h]
  · simp [file?, entry?_set_of_ne t hother]

/-- Making a directory leaves all files as they are. -/
theorem file?_makeDirectory (h : t.makeDirectory directory p = .ok t') : t'.file? = t.file? := by
  obtain ⟨above, name, -, -, hfree, rfl⟩ := makeDirectory_eq_ok h
  exact file?_set_directory hfree

/-- A path that is there, or that only lacks a file which is there now, is followed to its end in a tree with the
same directories and links. -/
theorem Follows.of_more {links : Nat} {place parts place' : List String} {w : Walk}
    (hdirectory : ∀ other, t.entry? other = some .directory → t'.entry? other = some .directory)
    (hlink : ∀ other target, t.entry? other = some (.link target) → t'.entry? other = some (.link target))
    (hplain : ∀ other e, t.entry? other = some e → e.isLink = false →
      ∃ e', t'.entry? other = some e' ∧ e'.isLink = false)
    (h : t.Follows links place parts w)
    (hw : (∃ left, w = .arrived place' left) ∨
      ∃ above name e, w = .stopped .missing above [name] ∧ place' = above ++ [name] ∧
        t'.entry? place' = some e ∧ e.isLink = false) :
    ∃ left, t'.Follows links place parts (.arrived place' left) := by
  have still {place : List String} {part : String} (seeks : t.Seeks place part) : t'.Seeks place part :=
    ⟨hdirectory _ seeks.directory, seeks.ne_dots, seeks.short⟩
  induction h with
  | nil =>
    obtain ⟨left, hw⟩ | ⟨above, name, e, hw, -⟩ := hw
    · cases hw
      exact ⟨_, .nil⟩
    · cases hw
  | stop stops =>
    obtain ⟨left, hw⟩ | ⟨above, name, e, hw, rfl, hentry, he⟩ := hw
    · cases hw
    · cases hw
      cases stops with
      | missing seeks => exact ⟨_, .enter (still seeks) hentry he .nil⟩
  | up directory _ ih =>
    obtain ⟨left, later⟩ := ih hw
    exact ⟨left, .up (hdirectory _ directory) later⟩
  | enter seeks entry plain _ ih =>
    obtain ⟨left, later⟩ := ih hw
    obtain ⟨e', entry', plain'⟩ := hplain _ _ entry plain
    exact ⟨left, .enter (still seeks) entry' plain' later⟩
  | link seeks entry _ ih =>
    obtain ⟨left, later⟩ := ih hw
    exact ⟨left, .link (still seeks) (hlink _ _ entry) later⟩

/-- A file that is set where none or another one is can be reached as before. -/
theorem locate_set_file {place : List String} {content : Bytes} {w : Walk} (hplace : place ≠ [])
    (hfree : t.entry? place = none ∨ ∃ former, t.entry? place = some (.file former))
    (hshort : p.text.utf8ByteSize ≤ longestPath)
    (h : t.Follows mostLinks (origin directory.parts p) p.parts w)
    (hw : (∃ left, w = .arrived place left) ∨ ∃ above name, w = .stopped .missing above [name] ∧
      place = above ++ [name]) :
    (t.set place (.file content)).locate directory p = .ok place := by
  have hself : entry? (t.set place (.file content)) place = some (.file content) := entry?_set_self t hplace _
  have kept {other : List String} {e : Entry} (hentry : t.entry? other = some e) (he : ∀ former, e ≠ .file former) :
      entry? (t.set place (.file content)) other = some e := by
    have hne : other ≠ place := by
      rintro rfl
      rw [hentry] at hfree
      obtain hfree | ⟨former, hfree⟩ := hfree
      · cases hfree
      · exact he former (Option.some.inj hfree)
    rw [entry?_set_of_ne t hne, hentry]
  have hreached : (∃ left, w = .arrived place left) ∨
      ∃ above name e, w = .stopped .missing above [name] ∧ place = above ++ [name] ∧
        entry? (t.set place (.file content)) place = some e ∧ e.isLink = false :=
    hw.imp_right fun ⟨above, name, hw, heq⟩ => ⟨above, name, _, hw, heq, hself, rfl⟩
  obtain ⟨left, hfollow⟩ := h.of_more
    (fun other hother => kept hother (by simp)) (fun other target hother => kept hother (by simp))
    (fun other e hother he => by
      by_cases heq : other = place
      · rw [heq]
        exact ⟨_, hself, rfl⟩
      · exact ⟨e, (entry?_set_of_ne t heq _).trans hother, he⟩)
    hreached
  rw [locate_of_short hshort, hfollow.eq]
  rfl

/-- Writing a file changes the file at the path, and no other one. -/
theorem file?_write {content : Bytes} (h : t.write directory p content = .ok t') :
    ∃ place, t'.locate directory p = .ok place ∧
      t'.file? = Function.update t.file? place (some content) := by
  obtain ⟨place, links, former, hwalk, hfile, rfl⟩ | ⟨above, name, hwalk, rfl⟩ := write_eq_ok h
  · obtain ⟨hshort, hfollow⟩ := walk_eq hwalk (by simp)
    have hplace : place ≠ [] := by
      rintro rfl
      cases hfile
    exact ⟨place, locate_set_file hplace (.inr ⟨former, hfile⟩) hshort hfollow (.inl ⟨links, rfl⟩),
      file?_set_file t hplace content⟩
  · obtain ⟨hshort, hfollow⟩ := walk_eq hwalk (by simp)
    obtain ⟨part, later, hrest, hstops⟩ := hfollow.stops (by simp)
    cases hrest
    cases hstops 0 with
    | missing seeks entry =>
      exact ⟨above ++ [name], locate_set_file (by simp) (.inl entry) hshort hfollow (.inr ⟨above, name, rfl, rfl⟩),
        file?_set_file t (by simp) content⟩

end FileTree

/-! ### Files of a disk -/

/-- Writes a text to a file in a directory that may have to be made. -/
def Files.put {m : Type → Type} [Monad m] (files : Files m) (p : Path) (text : String) : Action m Unit := do
  files.makeDirectories p.parent
  files.writeText p text

theorem Files.makeDirectories_eq {m : Type → Type} [Monad m] (files : Files m) (p : Path) :
    files.makeDirectories p = if p.parts.isEmpty then files.makeWith p none
      else files.makeWith p (some (files.makeDirectories p.parent)) := by
  rw [makeDirectories]

section

variable {m n : Type → Type} [Monad m] [LawfulMonad m] [Monad n] [LawfulMonad n] {C : Coupling m n}
  {files : Files m} {files' : Files n} (hkind : ∀ p, C.Related (files.kind p) (files'.kind p))
  (hmake : ∀ p, C.Related (files.makeDirectory p) (files'.makeDirectory p))

include hkind

theorem Files.isDirectory_acts (p : Path) : C.Acts (files.isDirectory p) (files'.isDirectory p) := by
  refine Coupling.Acts.bind (.lift (hkind p)) fun r => ?_
  cases r with
  | ok kind => exact .pure _
  | error fault => cases fault <;> first | exact .pure false | exact .throw _

theorem Files.acceptDirectory_acts (p : Path) (fault : FileFault) :
    C.Acts (files.acceptDirectory p fault) (files'.acceptDirectory p fault) := by
  refine .bind (Files.isDirectory_acts hkind p) fun there => ?_
  cases there with
  | true => exact .pure ()
  | false => exact .throw _

include hmake

theorem Files.makeWith_acts (p : Path) {above : Option (Action m Unit)} {above' : Option (Action n Unit)}
    (habove : Option.Rel C.Acts above above') : C.Acts (files.makeWith p above) (files'.makeWith p above') := by
  refine .bind (.liftExcept _) fun _ => .bind (.lift (hmake p)) fun r => ?_
  cases r with
  | ok u => cases habove <;> exact .pure ()
  | error fault =>
    by_cases hmissing : fault = .missing
    · subst hmissing
      cases habove with
      | none => exact .throw _
      | some hfirst =>
        refine .bind hfirst fun _ => .bind (.lift (hmake p)) fun r => ?_
        cases r with
        | ok u => exact .pure ()
        | error fault =>
          cases fault <;> first | exact .throw _ | exact Files.acceptDirectory_acts hkind p _
    · cases habove <;> cases fault <;> first | exact absurd rfl hmissing | exact Files.acceptDirectory_acts hkind p _

/-- Related operations make directories alike. -/
theorem Files.makeDirectories_acts (p : Path) : C.Acts (files.makeDirectories p) (files'.makeDirectories p) := by
  induction p using Files.makeDirectories.induct with
  | case1 p htop =>
    rw [files.makeDirectories_eq, files'.makeDirectories_eq, if_pos htop, if_pos htop]
    exact Files.makeWith_acts hkind hmake p .none
  | case2 p hbelow ih =>
    rw [files.makeDirectories_eq, files'.makeDirectories_eq, if_neg hbelow, if_neg hbelow]
    exact Files.makeWith_acts hkind hmake p (.some ih)

theorem Files.put_acts (hwrite : ∀ p bytes, C.Related (files.write p bytes) (files'.write p bytes)) (p : Path)
    (text : String) : C.Acts (files.put p text) (files'.put p text) := by
  refine .bind (Files.makeDirectories_acts hkind hmake p.parent) fun _ => ?_
  refine .bind (.liftExcept _) fun _ => .bind (.lift (hwrite p _)) fun r => ?_
  cases r with
  | ok u => exact .pure ()
  | error fault => exact .throw _

end

namespace Disk

variable (d : Disk)

theorem run_update (change : Disk → Except FileFault FileTree) :
    (update change : StateM Disk (Except FileFault Unit)).run d = match change d with
      | .ok tree => (.ok (), { d with tree })
      | .error fault => (.error fault, d) := by
  change (match change d with | .ok tree => _ | .error fault => _ : StateM Disk _).run d = _
  cases change d <;> rfl

/-- The files are the same, whatever directories there are besides. -/
def SameFiles (d' : Disk) : Prop := d'.directory = d.directory ∧ d'.tree.file? = d.tree.file?

theorem sameFiles_makeDirectories (p : Path) :
    d.SameFiles (outcome (Workspace.ofDisk.files.makeDirectories p) d).2 := by
  have hkind (p : Path) : (Coupling.keeping d.SameFiles).Related (Workspace.ofDisk.files.kind p)
      (Workspace.ofDisk.files.kind p) := fun _ h => h
  have hmake (p : Path) : (Coupling.keeping d.SameFiles).Related (Workspace.ofDisk.files.makeDirectory p)
      (Workspace.ofDisk.files.makeDirectory p) := by
    intro d' h
    change d.SameFiles ((update fun disk => disk.tree.makeDirectory disk.directory p : StateM Disk _).run d').2
    rw [run_update]
    cases hmade : d'.tree.makeDirectory d'.directory p with
    | error fault => exact h
    | ok tree => exact ⟨h.1, (FileTree.file?_makeDirectory hmade).trans h.2⟩
  exact Files.makeDirectories_acts hkind hmake p d ⟨rfl, rfl⟩

/-- A text that is written is the only change; one that is not is none. -/
theorem outcome_writeText (p : Path) (text : String) :
    (∃ e, outcome (Workspace.ofDisk.files.writeText p text) d = (.error e, d)) ∨
      ∃ tree, d.tree.write d.directory p (Text.encodeUtf8 text) = .ok tree ∧
        outcome (Workspace.ofDisk.files.writeText p text) d = (.ok (), { d with tree }) := by
  have hwrite : outcome (liftM (Workspace.ofDisk.files.write p (Text.encodeUtf8 text))) d
      = match d.tree.write d.directory p (Text.encodeUtf8 text) with
        | .ok tree => (.ok (.ok ()), { d with tree })
        | .error fault => (.ok (.error fault), d) := by
    have hrun := d.run_update fun disk => disk.tree.write disk.directory p (Text.encodeUtf8 text)
    change (Except.ok ((update _ : StateM Disk _).run d).1, ((update _ : StateM Disk _).run d).2) = _
    rw [hrun]
    cases d.tree.write d.directory p (Text.encodeUtf8 text) <;> rfl
  unfold Files.writeText
  cases p.checkNull with
  | error e => exact .inl ⟨e, rfl⟩
  | ok u =>
    rw [outcome_bind_of_ok (show outcome (liftM (Except.ok u : Except Error Unit)) d = (.ok u, d) from rfl),
      outcome_bind, hwrite]
    cases d.tree.write d.directory p (Text.encodeUtf8 text) with
    | error fault => exact .inl ⟨_, rfl⟩
    | ok tree => exact .inr ⟨tree, rfl, rfl⟩

/-- Writing a text fails with all files as they were, or changes the file at the path alone. -/
theorem outcome_put (p : Path) (text : String) :
    let after := outcome (Workspace.ofDisk.files.put p text) d
    (after.1 ≠ .ok () → after.2.tree.file? = d.tree.file?) ∧
      (after.1 = .ok () → ∃ place, after.2.tree.locate d.directory p = .ok place ∧
        after.2.tree.file? = Function.update d.tree.file? place (some (Text.encodeUtf8 text))) := by
  intro after
  have hmade := d.sameFiles_makeDirectories p.parent
  have hafter : after = outcome (Workspace.ofDisk.files.put p text) d := rfl
  unfold Files.put at hafter
  rw [outcome_bind] at hafter
  rcases hdirs : outcome (Workspace.ofDisk.files.makeDirectories p.parent) d with ⟨r, d'⟩
  rw [hdirs] at hmade hafter
  obtain ⟨hdirectory, hfiles⟩ := hmade
  cases r with
  | error e =>
    simp only at hafter
    rw [hafter]
    exact ⟨fun _ => hfiles, nofun⟩
  | ok u =>
    simp only at hafter
    obtain ⟨e, hfails⟩ | ⟨tree, hwrite, hdone⟩ := d'.outcome_writeText p text
    · rw [hafter, hfails]
      exact ⟨fun _ => hfiles, nofun⟩
    · rw [hafter, hdone]
      refine ⟨fun hne => absurd rfl hne, fun _ => ?_⟩
      obtain ⟨place, hplace, hchanged⟩ := FileTree.file?_write hwrite
      rw [hdirectory] at hplace
      exact ⟨place, hplace, by rw [hchanged, hfiles]⟩

end Disk

end Stencil
