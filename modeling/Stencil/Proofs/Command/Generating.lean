import Stencil.Proofs.Command.Writing
import Stencil.Proofs.Workspaces
import Stencil.Yaml.Document

/-!
# Generating all or nothing

A command renders first, and only then writes. Main statement: a command line that does not end with zero
leaves all files as they are; one that generates and ends with zero writes one text, to the one file that is
asked for or else to the standard output, and the text is what the command that renders to the standard output
writes there with the same settings.
-/
namespace Stencil.Command

open Render (Action Coupling Event outcome outcome_bind outcome_bind_eq_ok outcome_bind_of_ok)

/-! ### Machines -/

/-- What the program runs on: files, and what it has written to its two outputs. -/
structure Machine where
  disk : Disk
  output : String
  warnings : String

namespace Machine

/-- Lets the disk act. -/
def onDisk {α : Type} (x : StateM Disk α) : StateM Machine α := fun machine =>
  let (a, disk) := x.run machine.disk
  (a, { machine with disk })

def files : Files (StateM Machine) where
  workingDirectory := onDisk Workspace.ofDisk.files.workingDirectory
  real p := onDisk (Workspace.ofDisk.files.real p)
  kind p := onDisk (Workspace.ofDisk.files.kind p)
  read p := onDisk (Workspace.ofDisk.files.read p)
  makeDirectory p := onDisk (Workspace.ofDisk.files.makeDirectory p)
  write p bytes := onDisk (Workspace.ofDisk.files.write p bytes)

def host (setting : Setting) : Host (StateM Machine) where
  toSetting := setting
  files := files
  write s := modify fun machine => { machine with output := machine.output ++ s }
  warn s := modify fun machine => { machine with warnings := machine.warnings ++ s }

@[simp] theorem toSetting_host (setting : Setting) : (host setting).toSetting = setting := rfl

/-- Computations that do on a machine what others do on its disk, and may warn besides. -/
def overDisk : Coupling (StateM Machine) (StateM Disk) where
  Related x y := ∀ machine, ∃ warnings,
    x.run machine = ((y.run machine.disk).1, { machine with disk := (y.run machine.disk).2, warnings })
  of_pure _ machine := ⟨machine.warnings, rfl⟩
  of_bind {_ _ x y f g} hx hf machine := by
    obtain ⟨warnings, hfirst⟩ := hx machine
    obtain ⟨warnings', hrest⟩ :=
      hf (y.run machine.disk).1 { machine with disk := (y.run machine.disk).2, warnings }
    refine ⟨warnings', ?_⟩
    change (f (x.run machine).1).run (x.run machine).2 = _
    rw [hfirst]
    exact hrest

theorem overDisk_onDisk {α : Type} (x : StateM Disk α) : overDisk.Related (onDisk x) x :=
  fun machine => ⟨machine.warnings, rfl⟩

theorem overDisk_warn (setting : Setting) (s : String) :
    overDisk.Related ((host setting).warn s) (pure ()) :=
  fun machine => ⟨machine.warnings ++ s, rfl⟩

theorem overDisk_report (setting : Setting) (verbose : Bool) (e : Event) :
    overDisk.Related ((host setting).report verbose e) (pure ()) := by
  unfold Host.report
  split
  · exact overDisk_warn setting _
  · split
    · exact overDisk_warn setting _
    · exact overDisk.of_pure ()

/-- The program looks at the files of a machine as at those of its disk. -/
theorem alike_ofDisk (setting : Setting) (verbose : Bool) :
    Workspace.Alike overDisk ((host setting).workspace verbose) Workspace.ofDisk where
  workingDirectory := overDisk_onDisk _
  real _ := overDisk_onDisk _
  kind _ := overDisk_onDisk _
  read _ := overDisk_onDisk _
  report e := overDisk_report setting verbose e

end Machine

/-! ### Rendering -/

section

variable {m : Type → Type} [Monad m]

/-- The text that settings ask for, and where their configuration has it written. -/
def Settings.render (s : Settings) (setting : Setting) (w : Workspace m) : Action m (Option Path × String) := do
  let here ← w.files.workingDirectory
  let loaded ← w.loadConfig setting.reader here (s.config.map Path.ofString)
  let template ← (s.template.map Path.ofString).mapM w.files.resolve
  let bindings ← Config.readBindings s.bindings
  let text ← w.renderConfig setting.engine (loaded.override template none bindings)
  return (loaded.output, text)

/-- Writes a text where it is asked for. -/
def Host.deliver (host : Host m) (verbose : Bool) (text : String) : Option Path → Action m Unit
  | none => host.write text
  | some path => do
    host.files.put path text
    host.report verbose (.wrote path.text text.length)

variable [LawfulMonad m] (host : Host m) (s : Settings)

/-- Generating is rendering, then writing. -/
theorem generateCommand_eq :
    generateCommand host s = s.render host.toSetting (host.workspace s.verbose) >>= fun (output, text) =>
      host.deliver s.verbose text (s.output.map Path.ofString <|> output) := by
  unfold generateCommand Settings.resolve Settings.render
  simp only [bind_assoc, pure_bind]
  refine bind_congr fun here => bind_congr fun loaded => bind_congr fun template => bind_congr fun bindings => ?_
  refine bind_congr fun text => ?_
  change (match (s.output.map Path.ofString <|> loaded.output) with | none => _ | some path => _) = _
  cases (s.output.map Path.ofString <|> loaded.output) with
  | none => rfl
  | some path =>
    simp only [Host.deliver, Files.put, bind_assoc]
    rfl

theorem runCommand_eq (h : s.showsTree = false) :
    runCommand host s = s.render host.toSetting (host.workspace s.verbose) >>= fun (_, text) => host.write text := by
  unfold runCommand Settings.resolve Settings.render
  simp only [bind_assoc, pure_bind, h]
  rfl

omit [LawfulMonad m] in
/-- The output that is asked for and the wish to be told more have no part in rendering. -/
theorem Settings.render_congr {s s' : Settings} (hconfig : s'.config = s.config) (htemplate : s'.template = s.template)
    (hbindings : s'.bindings = s.bindings) (setting : Setting) (w : Workspace m) :
    s'.render setting w = s.render setting w := by
  unfold Settings.render
  rw [hconfig, htemplate, hbindings]

end

/-- Rendering has read a configuration. -/
theorem Settings.loaded_of_render (s : Settings) {setting : Setting} {d : Disk} {output : Option Path} {text : String}
    (h : (outcome (s.render setting Workspace.ofDisk) d).1 = .ok (output, text)) :
    ∃ loaded,
      (outcome (Workspace.ofDisk.loadConfig setting.reader d.directory (s.config.map Path.ofString)) d).1 = .ok loaded ∧
      loaded.output = output := by
  have hrender : outcome (s.render setting Workspace.ofDisk) d
      = (.ok (output, text), (outcome (s.render setting Workspace.ofDisk) d).2) := Prod.ext h rfl
  obtain ⟨here, d', hhere, hrender⟩ := outcome_bind_eq_ok hrender
  cases hhere
  obtain ⟨loaded, _, hloaded, hrender⟩ := outcome_bind_eq_ok hrender
  obtain ⟨_, _, -, hrender⟩ := outcome_bind_eq_ok hrender
  obtain ⟨_, _, -, hrender⟩ := outcome_bind_eq_ok hrender
  obtain ⟨_, _, -, hrender⟩ := outcome_bind_eq_ok hrender
  cases hrender
  exact ⟨loaded, congrArg Prod.fst hloaded, rfl⟩

section

variable {m n : Type → Type} [Monad m] [LawfulMonad m] [Monad n] [LawfulMonad n] {C : Coupling m n}

theorem Settings.render_acts {w : Workspace m} {w' : Workspace n} (h : Workspace.Alike C w w') (s : Settings)
    (setting : Setting) : C.Acts (s.render setting w) (s.render setting w') :=
  .bind (.lift h.workingDirectory) fun here => .bind (h.loadConfig setting.reader here _) fun loaded =>
    .bind (h.resolveAny _) fun template => .bind (.liftExcept _) fun bindings =>
      .bind (h.renderConfig setting.engine (loaded.override template none bindings)) fun text => .pure (loaded.output, text)

theorem runCommand_acts {host : Host m} {host' : Host n} (hsetting : host.toSetting = host'.toSetting) (s : Settings)
    (h : Workspace.Alike C (host.workspace s.verbose) (host'.workspace s.verbose))
    (hwrite : ∀ text, C.Related (host.write text) (host'.write text)) :
    C.Acts (runCommand host s) (runCommand host' s) := by
  unfold runCommand
  rw [hsetting]
  refine .bind (s.resolve_acts h _) fun c => ?_
  cases s.showsTree with
  | false => exact .bind (h.renderConfig _ c) fun text => .lift (hwrite text)
  | true =>
    cases c.template with
    | none => exact .throw _
    | some path =>
      exact .bind (h.loadTemplate path c.limit) fun blocks => .bind (.liftExcept _) fun text => .lift (hwrite _)

end

namespace Machine

variable (setting : Setting) (machine : Machine) (s : Settings)

/-- Rendering looks at the disk and leaves it as it is. -/
theorem outcome_render (verbose : Bool) :
    ∃ warnings, outcome (s.render setting ((host setting).workspace verbose)) machine
      = ((outcome (s.render setting Workspace.ofDisk) machine.disk).1, { machine with warnings }) := by
  have hstill : Workspace.Alike (Coupling.keeping (· = machine.disk)) Workspace.ofDisk Workspace.ofDisk :=
    ⟨fun _ h => h, fun _ _ h => h, fun _ _ h => h, fun _ _ h => h, fun _ _ h => h⟩
  have hkept : (outcome (s.render setting Workspace.ofDisk) machine.disk).2 = machine.disk :=
    s.render_acts hstill setting machine.disk rfl
  obtain ⟨warnings, hrun⟩ := s.render_acts (alike_ofDisk setting verbose) setting machine
  refine ⟨warnings, hrun.trans ?_⟩
  change (_, { machine with disk := (outcome (s.render setting Workspace.ofDisk) machine.disk).2, warnings }) = _
  rw [hkept]
  rfl

/-- Whatever the command that renders to the standard output does, it leaves the disk as it is. -/
theorem disk_runCommand : (outcome (runCommand (host setting) s) machine).2.disk = machine.disk := by
  have hreport (e : Event) : (Coupling.keeping fun after : Machine => after.disk = machine.disk).Related
      (((host setting).workspace s.verbose).report e) (((host setting).workspace s.verbose).report e) := by
    intro before h
    obtain ⟨warnings, hrun⟩ := overDisk_report setting s.verbose e before
    change (((host setting).report s.verbose e).run before).2.disk = _
    rw [hrun]
    exact h
  have hkept : Workspace.Alike (Coupling.keeping fun after : Machine => after.disk = machine.disk)
      ((host setting).workspace s.verbose) ((host setting).workspace s.verbose) :=
    ⟨fun _ h => h, fun _ _ h => h, fun _ _ h => h, fun _ _ h => h, hreport⟩
  exact runCommand_acts rfl s hkept (fun _ _ h => h) machine rfl

/-- What is different on a machine once a text has been delivered. -/
def Delivered (before after : Machine) (text : String) : Option Path → Prop
  | none => after.disk.tree.file? = before.disk.tree.file? ∧ after.output = before.output ++ text
  | some path => after.output = before.output ∧
      ∃ place, after.disk.tree.locate before.disk.directory path = .ok place ∧
        after.disk.tree.file? = Function.update before.disk.tree.file? place (some (Text.encodeUtf8 text))

/-- A text for a file is put there. -/
theorem outcome_deliver_some (verbose : Bool) (text : String) (path : Path) :
    ∃ warnings, outcome ((host setting).deliver verbose text (some path)) machine
      = ((outcome (Workspace.ofDisk.files.put path text) machine.disk).1,
        { machine with disk := (outcome (Workspace.ofDisk.files.put path text) machine.disk).2, warnings }) := by
  have hput : overDisk.Acts ((host setting).files.put path text) (Workspace.ofDisk.files.put path text) :=
    Files.put_acts (fun _ => overDisk_onDisk _) (fun _ => overDisk_onDisk _) (fun _ _ => overDisk_onDisk _)
      path text
  have hreport := overDisk_report setting verbose (.wrote path.text text.length)
  have hdeliver := hput.bind fun _ => Coupling.Acts.lift hreport
  rw [liftM_pure, bind_pure_unit] at hdeliver
  exact hdeliver machine

theorem outcome_deliver (verbose : Bool) (text : String) (output : Option Path) :
    let after := outcome ((host setting).deliver verbose text output) machine
    (after.1 ≠ .ok () → after.2.disk.tree.file? = machine.disk.tree.file?) ∧
      (after.1 = .ok () → machine.Delivered after.2 text output) := by
  intro after
  cases output with
  | none => exact ⟨fun h => absurd rfl h, fun _ => ⟨rfl, rfl⟩⟩
  | some path =>
    obtain ⟨warnings, hrun⟩ := machine.outcome_deliver_some setting verbose text path
    obtain ⟨hfails, hdone⟩ := machine.disk.outcome_put path text
    rw [show after = _ from hrun]
    exact ⟨hfails, fun h => ⟨rfl, hdone h⟩⟩

/-- Generating fails with all files as they were, or delivers the text that is rendered. -/
theorem outcome_generateCommand :
    let after := outcome (generateCommand (host setting) s) machine
    (after.1 ≠ .ok () → after.2.disk.tree.file? = machine.disk.tree.file?) ∧
      (after.1 = .ok () → ∃ output text,
        (outcome (s.render setting Workspace.ofDisk) machine.disk).1 = .ok (output, text) ∧
          machine.Delivered after.2 text (s.output.map Path.ofString <|> output)) := by
  intro after
  obtain ⟨warnings, hrender⟩ := machine.outcome_render setting s s.verbose
  have hafter : after = outcome (generateCommand (host setting) s) machine := rfl
  rw [generateCommand_eq, toSetting_host, outcome_bind, hrender] at hafter
  cases hrendered : (outcome (s.render setting Workspace.ofDisk) machine.disk).1 with
  | error e =>
    rw [hrendered] at hafter
    rw [hafter]
    exact ⟨fun _ => rfl, nofun⟩
  | ok rendered =>
    obtain ⟨output, text⟩ := rendered
    rw [hrendered] at hafter
    obtain ⟨hfails, hdone⟩ := outcome_deliver setting { machine with warnings } s.verbose text
      (s.output.map Path.ofString <|> output)
    rw [hafter]
    exact ⟨hfails, fun h => ⟨output, text, rfl, hdone h⟩⟩

/-- The text that is rendered goes to the standard output. -/
theorem outcome_runCommand (h : s.showsTree = false) {output : Option Path} {text : String}
    (hrendered : (outcome (s.render setting Workspace.ofDisk) machine.disk).1 = .ok (output, text)) :
    (outcome (runCommand (host setting) s) machine).1 = .ok () ∧
      (outcome (runCommand (host setting) s) machine).2.output = machine.output ++ text := by
  obtain ⟨warnings, hrender⟩ := machine.outcome_render setting s s.verbose
  rw [runCommand_eq _ _ h, toSetting_host, outcome_bind, hrender, hrendered]
  exact ⟨rfl, rfl⟩

/-- The code that a command ends with, and what it leaves behind. -/
theorem outcome_run_command (name : Name) :
    let done := outcome (name.execute (host setting) s) machine
    let after := outcome ((Request.command name s).run (host setting)) machine
    (done.1 = .ok () ∧ after = (.ok 0, done.2)) ∨
      (done.1 ≠ .ok () ∧ after.1 ≠ .ok 0 ∧ after.2.disk = done.2.disk) := by
  intro done after
  have hresult : outcome (ExceptT.lift (name.execute (host setting) s).run) machine = (.ok done.1, done.2) := rfl
  have hafter : after = outcome ((Request.command name s).run (host setting)) machine := rfl
  unfold Request.run at hafter
  rw [outcome_bind_of_ok hresult] at hafter
  cases hdone : done.1 with
  | ok u =>
    rw [hdone] at hafter
    exact .inl ⟨rfl, hafter⟩
  | error e =>
    rw [hdone] at hafter
    refine .inr ⟨nofun, ?_⟩
    cases hfault : e.isUserFault with
    | true =>
      simp only [hfault, if_true] at hafter
      have hcode : (.ok 2 : Except Error Nat) ≠ .ok 0 := by simp
      rw [hafter]
      exact ⟨hcode, rfl⟩
    | false =>
      simp only [hfault] at hafter
      rw [hafter]
      exact ⟨nofun, rfl⟩

theorem disk_run_of_ne_generate (r : Request) (h : ∀ s, r ≠ .command .generate s) :
    (outcome (r.run (host setting)) machine).2.disk = machine.disk := by
  cases r with
  | command name s =>
    cases name with
    | generate => exact absurd rfl (h s)
    | run =>
      have hkept := machine.disk_runCommand setting s
      obtain ⟨-, hafter⟩ | ⟨-, -, hafter⟩ := machine.outcome_run_command setting s .run
      · rw [hafter]
        exact hkept
      · rw [hafter]
        exact hkept
  | version => rfl
  | help => rfl
  | misuse program message => rfl

/-- Only generating changes files, and only if it ends with zero. -/
theorem files_run (r : Request)
    (h : (outcome (r.run (host setting)) machine).1 ≠ .ok 0 ∨ ∀ s, r ≠ .command .generate s) :
    (outcome (r.run (host setting)) machine).2.disk.tree.file? = machine.disk.tree.file? := by
  by_cases hother : ∀ s, r ≠ .command .generate s
  · rw [machine.disk_run_of_ne_generate setting r hother]
  · have hcode := h.resolve_right hother
    simp only [not_forall, not_not] at hother
    obtain ⟨s, rfl⟩ := hother
    obtain ⟨-, hafter⟩ | ⟨hfailed, -, hdisk⟩ := machine.outcome_run_command setting s .generate
    · exact absurd (congrArg Prod.fst hafter) hcode
    · rw [hdisk]
      exact (machine.outcome_generateCommand setting s).1 hfailed

/-- What has been generated is delivered. -/
theorem delivered_of_run
    (hcode : (outcome ((Request.command .generate s).run (host setting)) machine).1 = .ok 0) :
    ∃ output text, (outcome (s.render setting Workspace.ofDisk) machine.disk).1 = .ok (output, text) ∧
      machine.Delivered (outcome ((Request.command .generate s).run (host setting)) machine).2 text
        (s.output.map Path.ofString <|> output) := by
  obtain ⟨hdone, hafter⟩ | ⟨-, hfailed, -⟩ := machine.outcome_run_command setting s .generate
  · rw [hafter]
    exact (machine.outcome_generateCommand setting s).2 hdone
  · exact absurd hcode hfailed

/-- What is rendered is printed. -/
theorem printed_of_run (h : s.showsTree = false) {output : Option Path} {text : String}
    (hrendered : (outcome (s.render setting Workspace.ofDisk) machine.disk).1 = .ok (output, text)) :
    (outcome ((Request.command .run s).run (host setting)) machine).1 = .ok 0 ∧
      (outcome ((Request.command .run s).run (host setting)) machine).2.output = machine.output ++ text := by
  obtain ⟨hdone, hprinted⟩ := machine.outcome_runCommand setting s h hrendered
  obtain ⟨-, hafter⟩ | ⟨hfailed, -⟩ := machine.outcome_run_command setting s .run
  · rw [hafter]
    exact ⟨rfl, hprinted⟩
  · exact absurd hdone hfailed

end Machine

/-- A command line that does not end with zero leaves all files as they are, and so does one that asks for
anything else than generating. One that generates and ends with zero has delivered a text: to the one file
that its options or else its configuration ask for, or to the standard output. The text is what the command
that renders to the standard output writes there, with the same configuration, template and bindings. -/
theorem generate_all_or_nothing (args : List String) (setting : Setting) (machine : Machine) :
    let run (r : Request) := outcome (r.run (Machine.host setting)) machine
    let request := Request.ofArguments args
    (((run request).1 ≠ .ok 0 ∨ ∀ s, request ≠ .command .generate s) →
      (run request).2.disk.tree.file? = machine.disk.tree.file?) ∧
    ∀ s, request = .command .generate s → (run request).1 = .ok 0 →
      ∃ loaded text,
        (outcome (Workspace.ofDisk.loadConfig setting.reader machine.disk.directory (s.config.map Path.ofString))
          machine.disk).1 = .ok loaded ∧
        machine.Delivered (run request).2 text (s.output.map Path.ofString <|> loaded.output) ∧
        ∀ s' : Settings, s'.config = s.config → s'.template = s.template → s'.bindings = s.bindings →
          s'.showsTree = false →
            (run (.command .run s')).1 = .ok 0 ∧ (run (.command .run s')).2.output = machine.output ++ text := by
  intro run request
  refine ⟨machine.files_run setting request, fun s hrequest hcode => ?_⟩
  rw [hrequest] at hcode ⊢
  obtain ⟨output, text, hrendered, hdelivered⟩ := machine.delivered_of_run setting s hcode
  obtain ⟨loaded, hloaded, rfl⟩ := s.loaded_of_render hrendered
  refine ⟨loaded, text, hloaded, hdelivered, fun s' hconfig htemplate hbindings htree => ?_⟩
  rw [← Settings.render_congr hconfig htemplate hbindings setting] at hrendered
  exact machine.printed_of_run setting s' htree hrendered

/-- A template with two letters. -/
def oneFile : Disk := ⟨⟨[(["t"], .file [104, 105])]⟩, ⟨1, []⟩⟩

def oneFileSetting : Setting where
  engine := Expr.engine
  reader := Yaml.read
  version := none
  isDebugging := false

/-- Settings that name the template, and a file that is not there yet. -/
def oneFileSettings : Settings := ⟨false, none, some "t", some "x", [], false⟩

theorem resolve_oneFile {p : Path} (hnull : p.checkNull = .ok ()) :
    outcome (Workspace.ofDisk.files.resolve p) oneFile = (.ok (oneFile.directory.resolve p), oneFile) := by
  rw [Disk.outcome_resolve, Disk.resolve_of_no_null (by decide) hnull]

theorem answers_oneFile : oneFile.answers ⟨1, []⟩ "t" = .ok ⟨"hi", some "/t"⟩ := by
  have hplace : locateTemplate ⟨1, []⟩ "t" = .ok ⟨1, ["t"]⟩ := by cbv
  have hlocate : oneFile.locate ⟨1, []⟩ "t" = .ok ⟨1, ["t"]⟩ :=
    (Disk.locate_of_linkless (by decide) rfl "t").trans hplace
  have hfind : oneFile.find ⟨1, ["t"]⟩ = .ok (some [104, 105]) := by cbv
  have hdecoded : Text.read .utf8 [104, 105] = .ok "hi" := by cbv
  rw [Disk.answers_of_place _ hlocate, Disk.textAt_of_found _ _ hfind, hdecoded]
  rfl

theorem renderFile_oneFile :
    outcome (Workspace.ofDisk.renderFile oneFileSetting.engine ⟨1, ["t"]⟩ [] 100) oneFile = (.ok "hi", oneFile) := by
  have hroot : outcome (Workspace.ofDisk.files.resolve (Path.parent ⟨1, ["t"]⟩)) oneFile
      = (.ok ⟨1, []⟩, oneFile) := resolve_oneFile rfl
  have htext : outcome (Workspace.ofDisk.loadFrom .utf8 ⟨1, []⟩ (Path.name ⟨1, ["t"]⟩)) oneFile
      = (.ok "hi", oneFile) := by
    rw [Disk.outcome_loadFrom]
    change ((oneFile.answers ⟨1, []⟩ "t").map Render.Source.text, oneFile) = _
    rw [answers_oneFile]
    rfl
  have hlimit : Template.checkLimit 100 = .ok 100 := rfl
  have hparse : Template.parseWithin 100 "hi" = .ok [.text "hi"] := by cbv
  have hbindings : Expr.Bindings.ofValues [] = .ok [] := rfl
  have hbase : oneFile.resolve ⟨1, []⟩ = .ok ⟨1, []⟩ := Disk.resolve_of_no_null (by decide) rfl
  rw [Workspace.renderFile, outcome_bind_of_ok hroot, outcome_bind_of_ok htext, Disk.outcome_renderText,
    Disk.renderAnswers]
  simp only [hlimit, hparse, hbindings, hbase, Except.map, bind, Except.bind, Render.generate_eq]
  simp [Render.evaluate, Render.evaluateBlock]

theorem loadConfig_oneFile : outcome (Workspace.ofDisk.loadConfig oneFileSetting.reader oneFile.directory none) oneFile
    = (.ok (.empty ⟨1, []⟩), oneFile) := by
  have hdefault : outcome (Workspace.ofDisk.defaultConfigPath oneFile.directory) oneFile
      = (.ok ⟨1, ["templar.yaml"]⟩, oneFile) := resolve_oneFile (Path.checkNull_eq_ok.2 (by decide))
  have hfile : outcome (Workspace.ofDisk.files.isFile ⟨1, ["templar.yaml"]⟩) oneFile = (.ok false, oneFile) := by cbv
  have hfound : outcome (Workspace.ofDisk.findConfig oneFile.directory none) oneFile = (.ok none, oneFile) :=
    (outcome_bind_of_ok hdefault _).trans (outcome_bind_of_ok hfile _)
  exact (outcome_bind_of_ok hfound _).trans (outcome_bind_of_ok (resolve_oneFile rfl) _)

theorem render_oneFile :
    (outcome (oneFileSettings.render oneFileSetting Workspace.ofDisk) oneFile).1 = .ok (none, "hi") := by
  have hresolve : outcome (Workspace.ofDisk.files.resolve (.ofString "t")) oneFile = (.ok ⟨1, ["t"]⟩, oneFile) :=
    resolve_oneFile (Path.checkNull_eq_ok.2 (by decide))
  have htemplate : outcome ((some (Path.ofString "t")).mapM Workspace.ofDisk.files.resolve) oneFile
      = (.ok (some ⟨1, ["t"]⟩), oneFile) := by
    rw [Option.mapM_some, Render.outcome_map, hresolve]
    rfl
  have hconfig : outcome (Workspace.ofDisk.renderConfig oneFileSetting.engine
      ((Config.empty ⟨1, []⟩).override (some ⟨1, ["t"]⟩) none []))
      oneFile = (.ok "hi", oneFile) := renderFile_oneFile
  have hhere : outcome (liftM Workspace.ofDisk.files.workingDirectory) oneFile
      = (.ok oneFile.directory, oneFile) := rfl
  have hbindings : outcome (liftM (Config.readBindings [])) oneFile = (.ok [], oneFile) := rfl
  refine congrArg Prod.fst (?_ : outcome _ oneFile = (.ok (none, "hi"), oneFile))
  exact (outcome_bind_of_ok hhere _).trans <| (outcome_bind_of_ok loadConfig_oneFile _).trans <|
    (outcome_bind_of_ok htemplate _).trans <| (outcome_bind_of_ok hbindings _).trans <|
    outcome_bind_of_ok hconfig _

theorem generate_one_file :
    let machine : Machine := ⟨oneFile, "", ""⟩
    let request := Request.ofArguments ["generate", "--template", "t", "-o", "x"]
    let after := outcome (request.run (Machine.host oneFileSetting)) machine
    request = .command .generate oneFileSettings ∧ after.1 = .ok 0 ∧
      ∃ text, machine.Delivered after.2 text (some ⟨0, ["x"]⟩) ∧
        (outcome ((Request.command .run oneFileSettings).run (Machine.host oneFileSetting)) machine).2.output = "" ++ text := by
  intro machine request after
  have hrequest : request = .command .generate oneFileSettings := by decide +kernel
  have hdone : (outcome (generateCommand (Machine.host oneFileSetting) oneFileSettings) machine).1 = .ok () := by
    obtain ⟨warnings, hrender⟩ := machine.outcome_render oneFileSetting oneFileSettings false
    obtain ⟨warnings', hput⟩ := Machine.outcome_deliver_some oneFileSetting { machine with warnings } false "hi" ⟨0, ["x"]⟩
    rw [render_oneFile] at hrender
    rw [generateCommand_eq]
    refine (congrArg Prod.fst ((outcome_bind_of_ok hrender _).trans hput)).trans ?_
    cbv
  have hcode : after.1 = .ok 0 := by
    obtain ⟨-, hafter⟩ | ⟨hfailed, -⟩ := machine.outcome_run_command oneFileSetting oneFileSettings .generate
    · simp only [after, hrequest, hafter]
    · exact absurd hdone hfailed
  obtain ⟨loaded, text, hloaded, hdelivered, hran⟩ :=
    (generate_all_or_nothing ["generate", "--template", "t", "-o", "x"] oneFileSetting machine).2 oneFileSettings hrequest
      hcode
  exact ⟨hrequest, hcode, text, hdelivered, (hran oneFileSettings rfl rfl rfl rfl).2⟩

end Stencil.Command
