import Stencil.Command.Run
import Stencil.Yaml.Document

/-!
# The program

Runs the command line on the files, the output and the environment of the process.
-/
namespace Stencil.Command

open Text (Bytes)

/-- The number of a failed file operation. -/
def errorNumber? : IO.Error → Option Nat
  | .noFileOrDirectory _ n _ => some n.toNat
  | .alreadyExists _ n _ | .inappropriateType _ n _ | .invalidArgument _ n _ | .noSuchThing _ n _
  | .resourceExhausted _ n _ | .permissionDenied _ n _ => some n.toNat
  | .otherError n _ => some n.toNat
  | _ => none

/-- The fault that a number stands for. Some operations report the number with the opposite sign. -/
def faultNumbered? (n : Nat) : Option FileFault :=
  [FileFault.missing, .alreadyExists, .notDirectory, .isDirectory, .nameTooLong, .tooManyLinks].find? fun f =>
    f.number == n || n + f.number == 4294967296

/-- Runs a file operation; a failure that is no known fault ends the program. -/
def attempt {α : Type} (operation : IO α) : IO (Except FileFault α) := do
  try
    return .ok (← operation)
  catch e =>
    match (errorNumber? e).bind faultNumbered? with
    | some fault => return .error fault
    | none => throw e

/-- The place of a part in a directory, as far as something is there. -/
def realChild (above : Path) (part : String) : ExceptT LinkFault IO Path := do
  if part = ".." then return above.parent
  match ← attempt (IO.FS.realPath (above.child part).text) with
  | .ok place => return Path.ofString place.toString
  | .error .tooManyLinks => throw (.loop (above.child part).text)
  | .error _ => return above.child part

def realOf (path : Path) : ExceptT LinkFault IO Path := do
  let here := Path.ofString (← IO.currentDir).toString
  (here.join path).parts.foldlM realChild ⟨1, []⟩

def kindOf (path : Path) : IO FileKind := do
  let metadata ← ((← IO.currentDir) / path.text).metadata
  return match metadata.type with
    | .dir => .directory
    | _ => .file

def processFiles : Files IO where
  workingDirectory := do return Path.ofString (← IO.currentDir).toString
  real path := (realOf path).run
  kind path := attempt (kindOf path)
  read path := attempt do return (← IO.FS.readBinFile path.text).toList
  makeDirectory path := attempt (IO.FS.createDir path.text)
  write path bytes := attempt (IO.FS.writeBinFile path.text ⟨bytes.toArray⟩)

def processHost (isDebugging : Bool) : Host IO where
  engine := Expr.engine
  reader := Yaml.read
  version := some "0.1.0"
  isDebugging
  files := processFiles
  write s := IO.print s
  warn s := IO.eprint s

end Stencil.Command

open Stencil.Command in
def main (args : List String) : IO UInt32 := do
  let debugging := (← IO.getEnv "TEMPLAR_DEBUG").getD "" ≠ ""
  match ← ((Request.ofArguments args).run (processHost debugging)).run with
  | .ok code => return code.toUInt32
  | .error e =>
    IO.eprintln e.message
    return 1
