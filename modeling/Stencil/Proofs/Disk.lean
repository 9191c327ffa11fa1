import Stencil.Proofs.Render.Including
import Stencil.Proofs.Resolving

/-!
# Renders over a disk

A render looks at files through its loader only, and looking changes nothing. Main statement: a render over
a disk leaves the disk as it is, and is the render in which includes find what the loader answers there.
-/
namespace Stencil

open Render (Action Coupling Event Loader Source outcome)
open Text (Bytes Encoding)

/-! ### Contexts beside a state -/

namespace Expr.Engine

variable {m n : Type → Type} [Monad m] [LawfulMonad m] [Monad n] [LawfulMonad n] {C : Coupling m n}
  (e : Engine) {report : Event → StateT e.Memory m Unit} {report' : Event → StateT e.Memory n Unit}

omit [LawfulMonad m] [LawfulMonad n] in
theorem related_get : (C.withState e.Memory).Related (getThe e.Memory) (getThe e.Memory) :=
  fun memory => C.of_pure (memory, memory)

omit [LawfulMonad m] [LawfulMonad n] in
theorem related_modify (f : e.Memory → e.Memory) :
    (C.withState e.Memory).Related (modifyThe e.Memory f : StateT e.Memory m PUnit)
      (modifyThe e.Memory f : StateT e.Memory n PUnit) :=
  fun memory => C.of_pure (PUnit.unit, f memory)

variable (hr : ∀ event, (C.withState e.Memory).Related (report event) (report' event))

include hr

theorem evaluateHere_acts (s : String) :
    (C.withState e.Memory).Acts (e.evaluateHere report s) (e.evaluateHere report' s) := by
  refine .bind (.lift e.related_get) fun memory => ?_
  obtain ⟨program, prepared⟩ := e.prepare memory.prepared s
  refine Coupling.Acts.bind (.lift (e.related_modify fun _ => { memory with prepared })) fun _ => ?_
  cases e.finish memory.bindings s program with
  | error error => exact .throw error
  | ok v => exact .bind (.lift (hr _)) fun _ => .pure v

theorem evalCondition_acts (s : String) :
    (C.withState e.Memory).Acts ((e.context report).evalCondition s) ((e.context report').evalCondition s) :=
  (e.evaluateHere_acts hr s).bind fun v => .liftExcept (asCondition s v)

theorem evalText_acts (s : String) :
    (C.withState e.Memory).Acts ((e.context report).evalText s) ((e.context report').evalText s) :=
  (e.evaluateHere_acts hr s).bind fun v => .liftExcept (asText s v)

theorem transform_acts (name expression body : String) :
    (C.withState e.Memory).Acts ((e.context report).valuation.transform name expression body)
      ((e.context report').valuation.transform name expression body) :=
  .transform (fun _ => .bind (.lift e.related_get) fun _ => .pure _) (fun _ _ => .lift (e.related_modify _))
    (fun _ => .lift (e.related_modify _))
    (e.evalText_acts hr) hr name expression body

end Expr.Engine

/-! ### Loaders -/

section

variable {m n : Type → Type} [Monad m] [LawfulMonad m] [Monad n] [LawfulMonad n] {C : Coupling m n}

theorem Files.isFile_acts {files : Files m} {files' : Files n} {p : Path}
    (h : C.Related (files.kind p) (files'.kind p)) : C.Acts (files.isFile p) (files'.isFile p) := by
  unfold Files.isFile
  cases p.checkNull with
  | error e => exact .pure false
  | ok u =>
    refine Coupling.Acts.bind (.lift h) fun r => ?_
    cases r with
    | ok kind => exact .pure _
    | error fault => cases fault <;> first | exact .pure false | exact .throw _

theorem Files.follow_acts {files : Files m} {files' : Files n} {p : Path}
    (h : C.Related (files.real p) (files'.real p)) : C.Acts (files.follow p) (files'.follow p) := by
  refine Coupling.Acts.bind (.lift h) fun r => ?_
  cases r with
  | ok place => exact .pure place
  | error fault => exact .throw _

theorem Files.readText_acts {files : Files m} {files' : Files n} {p : Path} (encoding : Encoding)
    (h : C.Related (files.read p) (files'.read p)) :
    C.Acts (files.readText encoding p) (files'.readText encoding p) := by
  refine Coupling.Acts.bind (.lift h) fun r => ?_
  cases r with
  | error fault => exact .throw _
  | ok bytes =>
    cases hread : Text.read encoding bytes with
    | error flaw =>
      simp only [hread]
      exact .throw _
    | ok text =>
      simp only [hread]
      exact .pure text

theorem Workspace.locate_acts {w : Workspace m} {w' : Workspace n}
    (hreal : ∀ p, C.Related (w.files.real p) (w'.files.real p)) (root : Path) (path : String) :
    C.Acts (w.locate root path) (w'.locate root path) := by
  refine .bind (.liftExcept _) fun _ => .bind (Files.follow_acts (hreal _)) fun place => ?_
  split
  · exact .pure place
  · exact .throw _

/-- A loader answers with the text at the place of a template. -/
theorem Workspace.loader_eq (w : Workspace m) (encoding : Encoding) (root : Path) (path : String) :
    w.loader encoding root path = (do
      let place ← w.locate root path
      if ← w.files.isFile place then
        let result : Except Error String ← ExceptT.lift (w.files.readText encoding place).run
        match result with
        | .ok text => return ⟨text, some place.text⟩
        | .error e => throw (.notFound path root.text e.message)
      else throw (.notFound path root.text "file not found")) := by
  refine bind_congr fun place => bind_congr fun there => ?_
  cases there with
  | true => rfl
  | false => exact ExceptT.ext (pure_bind _ _)

theorem Workspace.loader_acts {w : Workspace m} {w' : Workspace n} (encoding : Encoding)
    (hreal : ∀ p, C.Related (w.files.real p) (w'.files.real p))
    (hkind : ∀ p, C.Related (w.files.kind p) (w'.files.kind p))
    (hread : ∀ p, C.Related (w.files.read p) (w'.files.read p)) (root : Path) (path : String) :
    C.Acts (w.loader encoding root path) (w'.loader encoding root path) := by
  rw [w.loader_eq, w'.loader_eq]
  refine .bind (Workspace.locate_acts hreal root path) fun place => ?_
  refine .bind (Files.isFile_acts (hkind place)) fun there => ?_
  cases there with
  | false => exact .throw _
  | true =>
    refine .bind (.attempt (Files.readText_acts encoding (hread place))) fun result => ?_
    cases result with
    | ok text => exact .pure _
    | error e => exact .throw _

/-- A loader in front of a state leaves it alone. -/
theorem Workspace.lift_loader (w : Workspace m) (σ : Type) (encoding : Encoding) (root : Path) (path : String) :
    ((w.lift : Workspace (StateT σ m)).loader encoding root path).run
      = liftM (w.loader encoding root path).run := by
  have h : (Coupling.lifting m σ).Acts (w.loader encoding root path) (w.lift.loader encoding root path) :=
    Workspace.loader_acts encoding (fun _ => rfl) (fun _ => rfl) (fun _ => rfl) root path
  exact h.symm

end

/-! ### Renders over a disk -/

/-- The workspace of a disk, which reports nothing. -/
abbrev Workspace.ofDisk : Workspace (StateM Disk) := ⟨Disk.files, fun _ => pure ()⟩

namespace Disk

variable (d : Disk)

/-- Computations that leave the disk as it is, and their values. -/
def still : Coupling (StateM Disk) Id where
  Related x a := x.run d = (a.run, d)
  of_pure _ := rfl
  of_bind {_ _ x y f g} hx hf := by
    have hrest := hf y.run
    change (f (x.run d).1).run (x.run d).2 = _
    rw [hx]
    exact hrest

/-- Looking leaves a disk as it is. -/
abbrev kept : Coupling (StateM Disk) (StateM Disk) := .states fun s s' => s = d ∧ s' = d

theorem kept_of_look {α : Type} (f : Disk → α) :
    d.kept.Related (do return f (← getThe Disk)) (do return f (← getThe Disk)) := by
  rintro _ _ ⟨rfl, rfl⟩
  exact ⟨rfl, rfl, rfl⟩

/-- What the loader finds in `root`, with the disk as it is. -/
def answers (root : Path) (path : String) : Except Error Source :=
  (outcome (Workspace.ofDisk.loader .utf8 root path) d).1

theorem still_loader (root : Path) (path : String) :
    d.still.Acts (Workspace.ofDisk.loader .utf8 root path) (Loader.ofAnswers (d.answers root) path) := by
  have hkeeps : d.kept.Acts (Workspace.ofDisk.loader .utf8 root path)
      (Workspace.ofDisk.loader .utf8 root path) :=
    Workspace.loader_acts .utf8 (fun _ => d.kept_of_look _) (fun _ => d.kept_of_look _)
      (fun _ => d.kept_of_look _) root path
  exact Prod.ext rfl (hkeeps d d ⟨rfl, rfl⟩).2.1

/-- The output of a text in which includes find `answers`, if there is a root to look for them. -/
def renderAnswers (en : Expr.Engine) (answers : Except Error (String → Except Error Source)) (text : String)
    (values : List (String × Expr.Value)) (limit : Int) : Except Error String := do
  let limit ← Template.checkLimit limit
  let blocks ← Template.parseWithin limit text
  let bindings ← Expr.Bindings.ofValues values
  let answers ← answers
  (outcome (Render.generate (en.context fun _ => pure ()) (some (Loader.ofAnswers answers)) limit blocks)
    (Expr.Engine.Memory.fresh en bindings)).1

theorem still_generate (en : Expr.Engine) (root : Path) (limit : Nat) (blocks : List Template.Block) :
    let w : Workspace (StateT en.Memory (StateM Disk)) := Workspace.ofDisk.lift
    (d.still.withState en.Memory).Acts
      (Render.generate (en.context w.report) (some (w.loader .utf8 root)) limit blocks)
      (Render.generate (en.context fun _ => pure ()) (some (Loader.ofAnswers (d.answers root))) limit blocks) := by
  intro w
  have hreport (event : Event) :
      (d.still.withState en.Memory).Related (w.report event) (pure ()) := Coupling.of_pure _ ()
  have hload (path : String) : (d.still.withState en.Memory).Acts (w.loader .utf8 root path)
      (Loader.ofAnswers (d.answers root) path) := by
    rw [Coupling.Acts, Workspace.lift_loader]
    exact (d.still_loader root path).withState
  rw [Render.generate_eq, Render.generate_eq]
  exact .evaluate (en.evalCondition_acts hreport) (en.transform_acts hreport)
    (.includedBlocks hreport (.some hload) limit) 0 [] blocks

section

variable {d} {α β : Type}

/-- A first action that leaves the disk as it is may be told apart by its result alone. -/
theorem outcome_bind_still {x : Action (StateM Disk) α} {r : Except Error α} (hx : outcome x d = (r, d))
    {f : α → Action (StateM Disk) β} {g : α → Except Error β}
    (hf : ∀ a, r = .ok a → outcome (f a) d = (g a, d)) : outcome (x >>= f) d = (r >>= g, d) := by
  rw [Render.outcome_bind, hx]
  cases r with
  | ok a => exact hf a rfl
  | error e => rfl

theorem outcome_lift {x : StateM Disk α} {a : Id α} (h : d.still.Related x a) :
    outcome (ExceptT.lift x) d = (.ok a.run, d) := by
  change (Except.ok (x.run d).1, (x.run d).2) = _
  rw [h]

end

theorem outcome_parseReported (limit : Nat) (text : String) :
    outcome (Render.parseReported Workspace.ofDisk.report limit text) d
      = (Template.parseWithin limit text, d) := by
  unfold Render.parseReported
  cases Template.parseWithin limit text with
  | ok blocks => rfl
  | error e => rfl

/-- The path without links and double dots that a path denotes. -/
def follow (p : Path) : Except Error Path := (d.tree.resolve d.directory p).mapError .links

def resolve (p : Path) : Except Error Path := p.checkNull >>= fun _ => d.follow p

/-- Where in `root` a template is that is included as `path`. -/
def locate (root : Path) (path : String) : Except Error Path := do
  (Path.ofString path).checkNull
  let place ← d.follow (root.join (.ofString path))
  if root.isWithin place then return place
  else .error (.notFound path root.text "path escapes the template root")

section

variable {d} {p place root : Path} {path : String}

theorem resolve_of_ok (hnull : p.checkNull = .ok ()) (h : d.tree.resolve d.directory p = .ok place) :
    d.resolve p = .ok place := by
  rw [resolve, hnull, follow, h]
  rfl

theorem locate_of_ok (hnull : '\x00' ∉ path.toList)
    (h : d.tree.resolve d.directory (root.join (.ofString path)) = .ok place) :
    d.locate root path = if root.isWithin place then .ok place
      else .error (.notFound path root.text "path escapes the template root") := by
  rw [locate, Path.checkNull_ofString hnull, follow, h]
  rfl

end

theorem outcome_follow (p : Path) : outcome (Workspace.ofDisk.files.follow p) d = (d.follow p, d) := by
  have hreal : outcome (liftM (Workspace.ofDisk.files.real p)) d = (.ok (d.tree.resolve d.directory p), d) := rfl
  unfold Files.follow Disk.follow
  rw [Render.outcome_bind_of_ok hreal]
  cases d.tree.resolve d.directory p <;> rfl

theorem outcome_resolve (p : Path) : outcome (Workspace.ofDisk.files.resolve p) d = (d.resolve p, d) :=
  outcome_bind_still (Render.outcome_liftExcept _ d) fun _ _ => d.outcome_follow p

theorem outcome_locate (root : Path) (path : String) :
    outcome (Workspace.ofDisk.locate root path) d = (d.locate root path, d) := by
  refine outcome_bind_still (Render.outcome_liftExcept _ d) fun _ _ => ?_
  refine outcome_bind_still (d.outcome_follow _) fun place _ => ?_
  split <;> rfl

/-- A render over a disk finds in its includes what the loader answers there, and leaves the disk as it is. -/
theorem outcome_renderText (en : Expr.Engine) (base : Path) (text : String) (values : List (String × Expr.Value))
    (limit : Int) :
    outcome (Workspace.ofDisk.renderText en text values (some base) limit) d
      = (renderAnswers en ((d.resolve base).map d.answers) text values limit, d) := by
  refine outcome_bind_still (Render.outcome_liftExcept _ d) fun limit _ => ?_
  refine outcome_bind_still (d.outcome_parseReported limit text) fun blocks _ => ?_
  refine outcome_bind_still (Render.outcome_liftExcept _ d) fun bindings _ => ?_
  have hroot : outcome ((some base).mapM Workspace.ofDisk.files.resolve) d = ((d.resolve base).map some, d) := by
    rw [Option.mapM_some, Render.outcome_map, d.outcome_resolve]
  cases hbase : d.resolve base with
  | error e =>
    rw [hbase] at hroot
    rw [Render.outcome_bind, hroot]
    rfl
  | ok root =>
    rw [hbase] at hroot
    rw [Render.outcome_bind_of_ok hroot]
    have hgenerate := d.still_generate en root limit blocks (Expr.Engine.Memory.fresh en bindings)
    refine outcome_bind_still (d.outcome_lift hgenerate) fun result _ => ?_
    exact Render.outcome_liftExcept _ d

theorem outcome_kind (p : Path) :
    outcome (liftM (Workspace.ofDisk.files.kind p)) d = (.ok (d.tree.kind d.directory p), d) := rfl

end Disk

/-! ### What is found at a path -/

namespace Disk

/-- The bytes of the regular file at a path. What cannot be there or cannot be reached is none. -/
def find (d : Disk) (p : Path) : Except FileFault (Option Bytes) :=
  match p.checkNull with
  | .error _ => .ok none
  | .ok () =>
    match d.tree.locate d.directory p with
    | .ok place =>
      match d.tree.entry? place with
      | some (.file content) => .ok (some content)
      | _ => .ok none
    | .error fault => if fault.isAbsence then .ok none else .error fault

/-- The text of the file at a path, with what is reported if there is none and if it cannot be decoded. -/
def textAt (d : Disk) (p : Path) (absent : Error) (undecodable : String → Error) : Except Error String :=
  match d.find p with
  | .ok (some content) => (Text.read .utf8 content).mapError fun flaw => undecodable flaw.message
  | .ok none => .error absent
  | .error fault => .error (.file fault p.text)

section

variable {d : Disk} {p : Path}

theorem checkNull_of_find {found : Except FileFault (Option Bytes)} (h : d.find p = found)
    (hfound : found ≠ .ok none) : p.checkNull = .ok () := by
  cases hnull : p.checkNull with
  | ok u => rfl
  | error e =>
    simp only [find, hnull] at h
    exact absurd h.symm hfound

theorem find_of_locate_error (hnull : p.checkNull = .ok ()) {fault : FileFault}
    (h : d.tree.locate d.directory p = .error fault) :
    d.find p = if fault.isAbsence then .ok none else .error fault := by
  simp only [find, hnull, h]

theorem find_of_locate (hnull : p.checkNull = .ok ()) {place : List String}
    (h : d.tree.locate d.directory p = .ok place) :
    d.find p = .ok (match d.tree.entry? place with
      | some (.file content) => some content
      | _ => none) := by
  simp only [find, hnull, h]
  split <;> simp_all

theorem find_eq_found {content : Bytes} (h : d.find p = .ok (some content)) :
    ∃ place, d.tree.locate d.directory p = .ok place ∧ d.tree.entry? place = some (.file content) := by
  have hnull : p.checkNull = .ok () := checkNull_of_find h (by simp)
  cases hlocate : d.tree.locate d.directory p with
  | error fault =>
    rw [find_of_locate_error hnull hlocate] at h
    split at h <;> cases h
  | ok place =>
    rw [find_of_locate hnull hlocate] at h
    split at h
    · rename_i hentry
      cases h
      exact ⟨place, rfl, hentry⟩
    · cases h

theorem find_of_absent {fault : FileFault} (h : d.tree.locate d.directory p = .error fault)
    (hfault : fault.isAbsence) : d.find p = .ok none := by
  cases hnull : p.checkNull with
  | error e => simp only [find, hnull]
  | ok u => rw [find_of_locate_error hnull h, if_pos hfault]

theorem find_of_fault (hnull : p.checkNull = .ok ()) {fault : FileFault}
    (h : d.tree.locate d.directory p = .error fault) (hfault : fault.isAbsence = false) :
    d.find p = .error fault := by
  rw [find_of_locate_error hnull h, if_neg (by simp [hfault])]

/-- Looking for a file depends on where the path leads, and on what is there. -/
theorem find_congr {d' : Disk} (hlocate : d.tree.locate d.directory p = d'.tree.locate d'.directory p)
    (hentry : ∀ place, d.tree.locate d.directory p = .ok place → d.tree.entry? place = d'.tree.entry? place) :
    d.find p = d'.find p := by
  cases hplace : d.tree.locate d.directory p with
  | error fault => simp only [find, hplace, hlocate.symm.trans hplace]
  | ok place => simp only [find, hplace, hlocate.symm.trans hplace, hentry place hplace]

variable (absent : Error) (undecodable : String → Error)

theorem textAt_of_found {content : Bytes} (h : d.find p = .ok (some content)) :
    d.textAt p absent undecodable
      = (Text.read .utf8 content).mapError fun flaw => undecodable flaw.message := by
  simp only [textAt, h]

theorem textAt_of_absent (h : d.find p = .ok none) : d.textAt p absent undecodable = .error absent := by
  simp only [textAt, h]

theorem textAt_of_fault {fault : FileFault} (h : d.find p = .error fault) :
    d.textAt p absent undecodable = .error (.file fault p.text) := by
  simp only [textAt, h]

theorem textAt_eq_ok {absent undecodable} {text : String} (h : d.textAt p absent undecodable = .ok text) :
    ∃ content, d.find p = .ok (some content) := by
  cases hfind : d.find p with
  | error fault =>
    rw [textAt_of_fault _ _ hfind] at h
    cases h
  | ok found =>
    cases found with
    | none =>
      rw [textAt_of_absent _ _ hfind] at h
      cases h
    | some content => exact ⟨content, rfl⟩

end

section

variable (d : Disk) {p : Path}

theorem outcome_isFile (p : Path) :
    outcome (Workspace.ofDisk.files.isFile p) d
      = (((d.find p).mapError fun fault => .file fault p.text).map Option.isSome, d) := by
  unfold Files.isFile
  cases hnull : p.checkNull with
  | error e =>
    simp only [find, hnull]
    rfl
  | ok u =>
    rw [Render.outcome_bind_of_ok (d.outcome_kind p)]
    cases hlocate : d.tree.locate d.directory p with
    | error fault =>
      rw [FileTree.kind_of_locate_error hlocate, find_of_locate_error hnull hlocate]
      cases fault <;> rfl
    | ok place =>
      rw [FileTree.kind_of_locate hlocate, find_of_locate hnull hlocate]
      cases d.tree.entry? place with
      | none => rfl
      | some e => cases e <;> rfl

theorem outcome_readText (encoding : Encoding) {content : Bytes} (h : d.find p = .ok (some content)) :
    outcome (Workspace.ofDisk.files.readText encoding p) d
      = ((Text.read encoding content).mapError fun flaw => .undecodable flaw.message, d) := by
  obtain ⟨place, hlocate, hentry⟩ := find_eq_found h
  have hfile : outcome (liftM (Workspace.ofDisk.files.read p)) d = (.ok (.ok content), d) := by
    have hread : d.tree.read d.directory p = .ok content := by
      rw [FileTree.read_of_locate hlocate]
      simp only [hentry]
    rw [← hread]
    rfl
  unfold Files.readText
  rw [Render.outcome_bind_of_ok hfile]
  cases hdecoded : Text.read encoding content with
  | ok text =>
    simp only [hdecoded]
    rfl
  | error flaw =>
    simp only [hdecoded]
    rfl

/-- What a template is loaded as: the text at its place, or an error that tells why there is none. -/
theorem outcome_loader (encoding : Encoding) (root : Path) (path : String) :
    outcome (Workspace.ofDisk.loader encoding root path) d
      = (d.locate root path >>= fun place => match d.find place with
          | .ok (some content) => ((Text.read encoding content).mapError fun flaw =>
              .notFound path root.text flaw.message).map fun text => ⟨text, some place.text⟩
          | .ok none => .error (.notFound path root.text "file not found")
          | .error fault => .error (.file fault place.text), d) := by
  rw [Workspace.loader_eq]
  refine outcome_bind_still (d.outcome_locate root path) fun place _ => ?_
  have hfile := d.outcome_isFile place
  cases hfind : d.find place with
  | error fault =>
    rw [hfind] at hfile
    rw [Render.outcome_bind, hfile]
    rfl
  | ok found =>
    rw [hfind] at hfile
    rw [Render.outcome_bind_of_ok hfile]
    cases found with
    | none => rfl
    | some content =>
      have hread : outcome (ExceptT.lift (Workspace.ofDisk.files.readText encoding place).run) d
          = (.ok ((Text.read encoding content).mapError fun flaw => .undecodable flaw.message), d) := by
        have hread := d.outcome_readText encoding hfind
        exact congrArg (fun r => (Except.ok r.1, r.2)) hread
      rw [Option.isSome_some, if_pos rfl, Render.outcome_bind_of_ok hread]
      dsimp only
      cases Text.read encoding content <;> rfl

/-- Loading gives the text alone. -/
theorem outcome_loadFrom (encoding : Encoding) (root : Path) (path : String) :
    outcome (Workspace.ofDisk.loadFrom encoding root path) d
      = ((outcome (Workspace.ofDisk.loader encoding root path) d).1.map Source.text, d) := by
  have hsource : outcome (Workspace.ofDisk.loader encoding root path) d
      = ((outcome (Workspace.ofDisk.loader encoding root path) d).1, d) := by
    rw [d.outcome_loader]
  unfold Workspace.loadFrom
  rw [Render.outcome_bind, hsource]
  cases (outcome (Workspace.ofDisk.loader encoding root path) d).1 with
  | error e => rfl
  | ok source =>
    obtain ⟨text, location⟩ := source
    cases location <;> rfl

/-- The loader answers with the text at the place of the path. -/
theorem answers_eq (root : Path) (path : String) :
    d.answers root path = d.locate root path >>= fun place =>
      (d.textAt place (.notFound path root.text "file not found") (.notFound path root.text)).map
        fun text => ⟨text, some place.text⟩ := by
  rw [answers, d.outcome_loader]
  refine bind_congr fun place => ?_
  rw [textAt]
  cases d.find place with
  | error fault => rfl
  | ok found => cases found <;> rfl

theorem answers_of_place {root place : Path} {path : String} (h : d.locate root path = .ok place) :
    d.answers root path = (d.textAt place (.notFound path root.text "file not found")
      (.notFound path root.text)).map fun text => ⟨text, some place.text⟩ := by
  rw [d.answers_eq, h]
  rfl

theorem answers_of_error {root : Path} {path : String} {e : Error} (h : d.locate root path = .error e) :
    d.answers root path = .error e := by
  rw [d.answers_eq, h]
  rfl

/-- An include whose template cannot be loaded ends a render with the error of the loader. -/
theorem outcome_renderText_inclusion (en : Expr.Engine) {base root : Path} (hbase : d.resolve base = .ok root)
    {limit : Int} {most : Nat} (hlimit : Template.checkLimit limit = .ok most) (hmost : 0 < most) {text path : String}
    (hparse : Template.parseWithin most text = .ok [.directive (.inclusion path) []]) {e : Error}
    (h : d.answers root path = .error e) :
    outcome (Workspace.ofDisk.renderText en text [] (some base) limit) d = (.error e, d) := by
  have hvalues : Expr.Bindings.ofValues [] = .ok [] := rfl
  rw [outcome_renderText, renderAnswers, hlimit]
  simp only [hparse, hvalues, hbase, Except.map, bind, Except.bind]
  rw [Render.outcome_generate_inclusion (fun _ _ => rfl) hmost h]

end

end Disk

/-! ### Disks without links -/

namespace Disk

variable {d : Disk} (hd : d.tree.Linkless)

include hd

theorem follow_of_linkless (p : Path) : d.follow p = .ok (d.directory.resolve p) := by
  rw [follow, hd.resolve_eq]
  rfl

theorem resolve_of_linkless (p : Path) : d.resolve p = p.checkNull.map fun _ => d.directory.resolve p := by
  rw [resolve]
  cases p.checkNull with
  | error e => rfl
  | ok u => exact follow_of_linkless hd p

theorem resolve_of_no_null {p : Path} (hnull : p.checkNull = .ok ()) : d.resolve p = .ok (d.directory.resolve p) := by
  rw [resolve_of_linkless hd, hnull]
  rfl

/-- The place of a template depends on its path alone. -/
theorem locate_of_linkless {root : Path} (hroot : root.isAbsolute) (path : String) :
    d.locate root path = locateTemplate root path := by
  have hjoin : d.directory.resolve (root.join (.ofString path)) = root.resolve (.ofString path) := by
    have habsolute : (root.join (.ofString path)).isAbsolute := by
      unfold Path.join
      split
      · assumption
      · exact hroot
    have hjoin : d.directory.join (root.join (.ofString path)) = root.join (.ofString path) := if_pos habsolute
    rw [Path.resolve, hjoin]
    rfl
  rw [locate, follow_of_linkless hd, hjoin]
  rfl

end Disk

end Stencil
