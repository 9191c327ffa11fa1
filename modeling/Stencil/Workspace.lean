import Stencil.Config
import Stencil.Files
import Stencil.Render.Generator
import Stencil.Yaml.Data

/-!
# Workspaces

Templates and configurations in files. Templates that a template includes are found in the directory of
the first one and nowhere else: a path that leads out of it is refused before any file is looked at. Any
engine may give the expressions their values, and any reader may read the configurations.
-/
namespace Stencil

open Stencil.Expr (Bindings Engine Value)
open Render (Action Event Loader Source)
open Template (Block)
open Text (Encoding)
open Yaml (Data Reader)

/-- Files, and a place for reports. -/
structure Workspace (m : Type → Type) where
  files : Files m
  report : Event → m Unit

namespace Workspace

variable {m : Type → Type} [Monad m] (w : Workspace m)

/-- The same effects with a state besides. -/
def lift {σ : Type} : Workspace (StateT σ m) where
  files := w.files.lift
  report e := w.report e

/-! ### Templates -/

/-- Where in `root` a template is that is included as `path`. The root is a path without links. -/
def locate (root : Path) (path : String) : Action m Path := do
  let p := Path.ofString path
  p.checkNull
  let place ← w.files.follow (root.join p)
  if root.isWithin place then return place
  else throw (.notFound path root.text "path escapes the template root")

/-- Loads templates from the files in `root`. -/
def loader (encoding : Encoding) (root : Path) : Loader m := fun path => do
  let place ← w.locate root path
  if !(← w.files.isFile place) then
    throw (.notFound path root.text "file not found")
  let result : Except Error String ← ExceptT.lift (w.files.readText encoding place).run
  match result with
  | .ok text => return ⟨text, some place.text⟩
  | .error e => throw (.notFound path root.text e.message)

/-- Loads one template from `root`, a path without links. -/
def loadFrom (encoding : Encoding) (root : Path) (path : String) : Action m String := do
  let source ← w.loader encoding root path
  match source.location with
  | some location => w.report (.loaded location source.text.length)
  | none => pure ()
  return source.text

def load (encoding : Encoding) (root : Path) (path : String) : Action m String := do
  w.loadFrom encoding (← w.files.resolve root) path

/-- The output of a text in a context of the caller's, with includes from `root` if there is one. -/
def renderTextIn (context : Render.Context m) (text : String) (root : Option Path) (limit : Int) :
    Action m String := do
  let limit ← Template.checkLimit limit
  let blocks ← Render.parseReported w.report limit text
  let root ← root.mapM w.files.resolve
  Render.generate context (root.map (w.loader .utf8)) limit blocks

/-- The output of a text where names are bound to `values`. -/
def renderText (e : Engine) (text : String) (values : List (String × Value)) (root : Option Path)
    (limit : Int) : Action m String := do
  let limit ← Template.checkLimit limit
  let blocks ← Render.parseReported w.report limit text
  let bindings ← Bindings.ofValues values
  let root ← root.mapM w.files.resolve
  let inner : Workspace (StateT e.Memory m) := w.lift
  let output := Render.generate (e.context inner.report) (root.map (inner.loader .utf8)) limit blocks
  let (result, _) ← ExceptT.lift (output.run.run (.fresh e bindings))
  result

/-- The output of a template file. Includes come from its directory. -/
def renderFile (e : Engine) (path : Path) (values : List (String × Value)) (limit : Int) :
    Action m String := do
  let root ← w.files.resolve path.parent
  let text ← w.loadFrom .utf8 root path.name
  w.renderText e text values (some root) limit

/-- The blocks of a template file. -/
def loadTemplate (path : Path) (limit : Int) : Action m (List Block) := do
  if !(← w.files.isFile path) then
    throw (.notFound path.name (← w.files.resolve path.parent).text "file not found")
  let text ← w.files.readText .utf8 path
  let limit ← Template.checkLimit limit
  Render.parseReported w.report limit text

/-! ### Configurations -/

/-- The name of a configuration file that nobody has to name. -/
def configName : String := "templar.yaml"

def defaultConfigPath (root : Path) : Action m Path :=
  w.files.resolve (root.join (Path.ofString configName))

/-- The configuration file that is asked for, or the one in `root` if there is one. -/
def findConfig (root : Path) (asked : Option Path) : Action m (Option Path) := do
  match asked with
  | some path => return some (← w.files.resolve path)
  | none =>
    let path ← w.defaultConfigPath root
    return if ← w.files.isFile path then some path else none

/-- The entries of a configuration file. A document that says nothing has none. -/
def readEntries (reader : Reader) (path : Path) : Action m (List (Data × Data)) := do
  let result : Except Error String ← ExceptT.lift (w.files.readText .utf8 path).run
  let text ← match result with
    | .error (.file fault p) =>
      throw (.config (.unreadable path.text (Error.file fault p).message))
    | .error e => throw e
    | .ok text => pure text
  match reader text with
  | .error (.aborted fault detail) => throw (.badData fault detail)
  | .error (.diagnosed diagnosis) => throw (.config (.invalidDocument path.text diagnosis))
  | .ok d =>
    match d.entries? with
    | some entries => return entries
    | none => if d.isEmpty then return [] else throw (.config (.notMapping path.text))

def loadConfig (reader : Reader) (root : Path) (asked : Option Path) : Action m Config := do
  match ← w.findConfig root asked with
  | none => return .empty (← w.files.resolve root)
  | some path =>
    if !(← w.files.isFile path) then
      throw (.config (.missingFile path.text))
    ExceptT.mk (pure (Config.ofEntries (← w.readEntries reader path) path.parent))

/-- The output of the template that a configuration names. -/
def renderConfig (e : Engine) (c : Config) : Action m String := do
  match c.template with
  | none => throw (.config .noTemplate)
  | some path =>
    w.report (.rendering path.text c.bindings.length)
    w.renderFile e path (c.bindings.map fun p => (p.1, Value.text p.2)) c.limit

end Workspace

end Stencil
