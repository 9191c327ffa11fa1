import Stencil.Path
import Stencil.Render.Context
import Stencil.Text.Encoding

/-!
# Files

What a program may do with files, in a monad of the caller's choice, and what is built from it: resolving
paths, asking for regular files, reading and writing text, making directories with those above them.
-/
namespace Stencil

open Render (Action)
open Text (Bytes Encoding)

inductive FileKind where
  | file
  | directory
  deriving DecidableEq, Repr

/-- Operations on files. Relative paths start at the working directory. -/
structure Files (m : Type → Type) where
  workingDirectory : m Path
  /-- The absolute path without links and double dots that leads where a path leads, or would lead if what is
  missing were there. -/
  real : Path → m (Except LinkFault Path)
  kind : Path → m (Except FileFault FileKind)
  read : Path → m (Except FileFault Bytes)
  /-- Makes a directory where its parent is there. -/
  makeDirectory : Path → m (Except FileFault Unit)
  /-- Makes a file, or gives a file new content. -/
  write : Path → Bytes → m (Except FileFault Unit)

/-- No file has a name with a null character. -/
def Path.checkNull (p : Path) : Except Error Unit :=
  if p.parts.any fun part => part.contains '\x00' then .error .nullInPath else .ok ()

namespace Files

variable {m : Type → Type} [Monad m] (files : Files m)

def lift {σ : Type} : Files (StateT σ m) where
  workingDirectory := files.workingDirectory
  real p := files.real p
  kind p := files.kind p
  read p := files.read p
  makeDirectory p := files.makeDirectory p
  write p bytes := files.write p bytes

def follow (p : Path) : Action m Path := do
  match ← files.real p with
  | .ok place => return place
  | .error fault => throw (.links fault)

/-- The absolute path without links and double dots that a path denotes. -/
def resolve (p : Path) : Action m Path := do
  p.checkNull
  files.follow p

/-- Is there a regular file? What cannot be reached is none. -/
def isFile (p : Path) : Action m Bool := do
  match p.checkNull with
  | .error _ => return false
  | .ok () =>
    match ← files.kind p with
    | .ok kind => return kind == .file
    | .error fault => if fault.isAbsence then return false else throw (.file fault p.text)

def isDirectory (p : Path) : Action m Bool := do
  match ← files.kind p with
  | .ok kind => return kind == .directory
  | .error fault => if fault.isAbsence then return false else throw (.file fault p.text)

/-- The text of a file. -/
def readText (encoding : Encoding) (p : Path) : Action m String := do
  match ← files.read p with
  | .error fault => throw (.file fault p.text)
  | .ok bytes =>
    match Text.read encoding bytes with
    | .error flaw => throw (.undecodable flaw.message)
    | .ok text => return text

def writeText (p : Path) (text : String) : Action m Unit := do
  p.checkNull
  match ← files.write p (Text.encodeUtf8 text) with
  | .error fault => throw (.file fault p.text)
  | .ok () => return ()

/-- A directory that could not be made will do if it is there. -/
def acceptDirectory (p : Path) (fault : FileFault) : Action m Unit := do
  if ← files.isDirectory p then return () else throw (.file fault p.text)

/-- Makes the directory `p`, given how those above it are made. -/
def makeWith (p : Path) (above : Option (Action m Unit)) : Action m Unit := do
  p.checkNull
  match ← files.makeDirectory p, above with
  | .ok (), _ => return ()
  | .error .missing, some make =>
    make
    match ← files.makeDirectory p with
    | .ok () => return ()
    | .error .missing => throw (.file .missing p.text)
    | .error fault => files.acceptDirectory p fault
  | .error .missing, none => throw (.file .missing p.text)
  | .error fault, _ => files.acceptDirectory p fault

/-- Makes a directory and those above it that are missing. -/
def makeDirectories (p : Path) : Action m Unit :=
  if p.parts.isEmpty then files.makeWith p none
  else files.makeWith p (some (makeDirectories p.parent))
  termination_by p.parts.length
  decreasing_by
    have : p.parts ≠ [] := by simpa using ‹¬p.parts.isEmpty = true›
    have := List.length_pos_iff.2 this
    simp only [Path.parent, List.length_dropLast]
    omega

end Files

end Stencil
