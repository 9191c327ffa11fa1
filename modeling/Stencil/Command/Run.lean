import Stencil.Command.Help
import Stencil.Template.Listing
import Stencil.Workspace

/-!
# Running commands

What the program writes and which code it ends with. A command first renders and writes only then, so a
failure leaves all files as they are. Failures that a user can mend take one line; any other one is left to
the caller.
-/
namespace Stencil.Command

open Stencil.Expr (Engine)
open Render (Action Event)

/-- What a program finds where it is installed. -/
structure Setting where
  engine : Engine
  reader : Yaml.Reader
  /-- The version under which the program is installed, if it is. -/
  version : Option String
  /-- Is everything to be reported, whatever the command line says? -/
  isDebugging : Bool

/-- What a running program works with. -/
structure Host (m : Type → Type) extends Setting where
  files : Files m
  /-- Writes to the standard output. -/
  write : String → m Unit
  /-- Writes to the standard error output. -/
  warn : String → m Unit

/-- The line that reports an event. -/
def reportLine : Event → String
  | .including path depth => s!"Including template '{path}' (depth {depth})"
  | .loaded location size => s!"Loaded template {location} ({size} chars)"
  | .parsed top total => s!"Parsed template: {top} top-level blocks, {total} total"
  | .evaluated expression result => "Evaluated " ++ Text.quote expression ++ " -> " ++ result
  | .transformed name before after => s!"Transform '{name}': {before} chars -> {after} chars"
  | .rendering path bindings => s!"Rendering {path} with {bindings} variable(s)"
  | .wrote path size => s!"Wrote {path} ({size} chars)"

/-- Only what was written is reported always. -/
def isAlwaysReported : Event → Bool
  | .wrote .. => true
  | _ => false

def Setting.versionText (s : Setting) : String := program ++ " " ++ s.version.getD "0.0.0" ++ "\n"

variable {m : Type → Type} [Monad m]

/-- Reports an event, if it is to be reported. -/
def Host.report (host : Host m) (verbose : Bool) (e : Event) : m Unit :=
  if isAlwaysReported e then host.warn ("[INFO] " ++ reportLine e ++ "\n")
  else if verbose || host.isDebugging then host.warn ("[DEBUG] " ++ reportLine e ++ "\n")
  else pure ()

def Host.workspace (host : Host m) (verbose : Bool) : Workspace m :=
  ⟨host.files, host.report verbose⟩

/-- The configuration that the settings ask for. -/
def Settings.resolve (s : Settings) (reader : Yaml.Reader) (w : Workspace m) : Action m Config := do
  let here ← w.files.workingDirectory
  let c ← w.loadConfig reader here (s.config.map Path.ofString)
  let template ← (s.template.map Path.ofString).mapM w.files.resolve
  let bindings ← Config.readBindings s.bindings
  return c.override template (s.output.map Path.ofString) bindings

/-- Renders to the standard output, or lists the blocks there. -/
def runCommand (host : Host m) (s : Settings) : Action m Unit := do
  let w := host.workspace s.verbose
  let c ← s.resolve host.reader w
  if s.showsTree then
    match c.template with
    | none => throw (.config .noTemplate)
    | some path =>
      let blocks ← w.loadTemplate path c.limit
      host.write ((← Template.Listing.print blocks 0) ++ "\n")
  else
    host.write (← w.renderConfig host.engine c)

/-- Renders to a file, or to the standard output if no file is named. -/
def generateCommand (host : Host m) (s : Settings) : Action m Unit := do
  let w := host.workspace s.verbose
  let c ← s.resolve host.reader w
  let text ← w.renderConfig host.engine c
  match c.output with
  | none => host.write text
  | some path =>
    w.files.makeDirectories path.parent
    w.files.writeText path text
    w.report (.wrote path.text text.length)

def Name.execute (name : Name) (host : Host m) (s : Settings) : Action m Unit :=
  match name with
  | .run => runCommand host s
  | .generate => generateCommand host s

/-- What a user is told about a failure. -/
def failureLine (name : Name) (e : Error) : String :=
  let message := String.ofList (Text.trimEnd e.message.toList)
  "Failed to execute command '" ++ name.text ++ "': " ++ message ++ "\n"

/-- Runs a request; the result is the code that the program ends with. -/
def Request.run (host : Host m) : Request → Action m Nat
  | .version => do
    host.write host.versionText
    return 0
  | .help about => do
    host.write (helpText about)
    return 0
  | .misuse about message => do
    host.warn (usage about)
    host.warn (title about ++ ": error: " ++ message ++ "\n")
    return 2
  | .command name s => do
    let result : Except Error Unit ← ExceptT.lift (name.execute host s).run
    match result with
    | .ok () => return 0
    | .error e =>
      if e.isUserFault then
        host.warn (failureLine name e)
        return 2
      else throw e

end Stencil.Command
