import Stencil.Command.Run
import Stencil.Proofs.Disk

/-!
# Workspaces side by side

Whatever a program does with files and configurations, it does through its workspace. Main statements: in
workspaces whose operations are related, so are loading and rendering a template, reading a configuration
and what a command line asks for.
-/
namespace Stencil

open Stencil.Expr (Value)
open Render (Coupling Event)

variable {m n : Type → Type} [Monad m] [LawfulMonad m] [Monad n] [LawfulMonad n] {C : Coupling m n}

/-- The workspaces look at files alike, and report alike. -/
structure Workspace.Alike (C : Coupling m n) (w : Workspace m) (w' : Workspace n) : Prop where
  workingDirectory : C.Related w.files.workingDirectory w'.files.workingDirectory
  real (p : Path) : C.Related (w.files.real p) (w'.files.real p)
  kind (p : Path) : C.Related (w.files.kind p) (w'.files.kind p)
  read (p : Path) : C.Related (w.files.read p) (w'.files.read p)
  report (e : Event) : C.Related (w.report e) (w'.report e)

namespace Workspace.Alike

variable {w : Workspace m} {w' : Workspace n} (h : Alike C w w')

include h

omit [LawfulMonad m] [LawfulMonad n] in
theorem lift (σ : Type) : Alike (C.withState σ) (w.lift : Workspace (StateT σ m)) w'.lift where
  workingDirectory := h.workingDirectory.withState
  real p := (h.real p).withState
  kind p := (h.kind p).withState
  read p := (h.read p).withState
  report e := (h.report e).withState

theorem resolve (p : Path) : C.Acts (w.files.resolve p) (w'.files.resolve p) :=
  .bind (.liftExcept _) fun _ => Files.follow_acts (h.real p)

theorem resolveAny (p : Option Path) : C.Acts (p.mapM w.files.resolve) (p.mapM w'.files.resolve) := by
  cases p with
  | none => exact .pure none
  | some p =>
    rw [Option.mapM_some, Option.mapM_some, map_eq_pure_bind, map_eq_pure_bind]
    exact .bind (h.resolve p) fun place => .pure (some place)

theorem isFile (p : Path) : C.Acts (w.files.isFile p) (w'.files.isFile p) := Files.isFile_acts (h.kind p)

theorem loader (root : Path) (path : String) : C.Acts (w.loader .utf8 root path) (w'.loader .utf8 root path) :=
  Workspace.loader_acts .utf8 h.real h.kind h.read root path

/-! ### Templates -/

theorem loadFrom (root : Path) (path : String) : C.Acts (w.loadFrom .utf8 root path) (w'.loadFrom .utf8 root path) := by
  refine .bind (h.loader root path) fun source => ?_
  obtain ⟨text, location⟩ := source
  cases location with
  | some location => exact .bind (.lift (h.report _)) fun _ => .pure text
  | none => exact .pure text

theorem renderText (en : Expr.Engine) (text : String) (values : List (String × Value)) (root : Option Path)
    (limit : Int) : C.Acts (w.renderText en text values root limit) (w'.renderText en text values root limit) := by
  refine .bind (.liftExcept _) fun limit => .bind (.parseReported h.report limit text) fun blocks => ?_
  refine .bind (.liftExcept _) fun bindings => .bind (h.resolveAny root) fun root => ?_
  have hl := h.lift en.Memory
  have hload : Option.Rel (fun load load' => ∀ path, (C.withState en.Memory).Acts (load path) (load' path))
      (root.map ((w.lift : Workspace (StateT en.Memory m)).loader .utf8))
      (root.map ((w'.lift : Workspace (StateT en.Memory n)).loader .utf8)) := by
    cases root with
    | none => exact .none
    | some root => exact .some (hl.loader root)
  have houtput : (C.withState en.Memory).Acts
      (Render.generate (en.context w.lift.report) (root.map (w.lift.loader .utf8)) limit blocks)
      (Render.generate (en.context w'.lift.report) (root.map (w'.lift.loader .utf8)) limit blocks) := by
    rw [Render.generate_eq, Render.generate_eq]
    exact .evaluate (en.evalCondition_acts hl.report) (en.transform_acts hl.report)
      (.includedBlocks hl.report hload limit) 0 [] blocks
  exact .bind (.lift (houtput _)) fun result => .liftExcept result.1

theorem renderFile (en : Expr.Engine) (path : Path) (values : List (String × Value)) (limit : Int) :
    C.Acts (w.renderFile en path values limit) (w'.renderFile en path values limit) :=
  .bind (h.resolve path.parent) fun root => .bind (h.loadFrom root path.name) fun text =>
    h.renderText en text values (some root) limit

theorem loadTemplate (path : Path) (limit : Int) : C.Acts (w.loadTemplate path limit) (w'.loadTemplate path limit) := by
  refine .bind (h.isFile path) fun there => ?_
  cases there with
  | false => exact .bind (h.resolve path.parent) fun root => .throw_bind _ _ _
  | true =>
    exact .bind (Files.readText_acts .utf8 (h.read path)) fun text => .bind (.liftExcept _) fun limit =>
      .parseReported h.report limit text

/-! ### Configurations -/

theorem findConfig (root : Path) (asked : Option Path) :
    C.Acts (w.findConfig root asked) (w'.findConfig root asked) := by
  cases asked with
  | some path => exact .bind (h.resolve path) fun path => .pure (some path)
  | none =>
    refine .bind (h.resolve _) fun path => .bind (h.isFile path) fun there => ?_
    exact .pure _

theorem readEntries (reader : Yaml.Reader) (path : Path) :
    C.Acts (w.readEntries reader path) (w'.readEntries reader path) := by
  refine .bind (.attempt (Files.readText_acts .utf8 (h.read path))) fun result => ?_
  cases result with
  | error e => cases e <;> exact .throw_bind _ _ _
  | ok text =>
    refine .bind (.pure text) fun text => ?_
    dsimp only
    cases reader text with
    | error refusal => cases refusal <;> exact .throw _
    | ok d =>
      cases hentries : d.entries? with
      | some entries =>
        simp only [hentries]
        exact .pure entries
      | none =>
        simp only [hentries]
        split
        · exact .pure []
        · exact .throw _

theorem loadConfig (reader : Yaml.Reader) (root : Path) (asked : Option Path) :
    C.Acts (w.loadConfig reader root asked) (w'.loadConfig reader root asked) := by
  refine .bind (h.findConfig root asked) fun found => ?_
  cases found with
  | none => exact .bind (h.resolve root) fun root => .pure _
  | some path =>
    refine .bind (h.isFile path) fun there => ?_
    cases there with
    | false => exact .throw_bind _ _ _
    | true => exact .bind (h.readEntries reader path) fun entries => C.of_pure _

theorem renderConfig (en : Expr.Engine) (c : Config) : C.Acts (w.renderConfig en c) (w'.renderConfig en c) := by
  unfold Workspace.renderConfig
  cases c.template with
  | none => exact .throw _
  | some path => exact .bind (.lift (h.report _)) fun _ => h.renderFile en path _ c.limit

end Workspace.Alike

/-- A command line asks for related configurations in workspaces that are alike. -/
theorem Command.Settings.resolve_acts {w : Workspace m} {w' : Workspace n} (h : w.Alike C w')
    (s : Command.Settings) (reader : Yaml.Reader) : C.Acts (s.resolve reader w) (s.resolve reader w') :=
  .bind (.lift h.workingDirectory) fun here => .bind (h.loadConfig reader here _) fun c =>
    .bind (h.resolveAny _) fun template => .bind (.liftExcept _) fun bindings =>
      .pure (c.override template (s.output.map Path.ofString) bindings)

end Stencil
