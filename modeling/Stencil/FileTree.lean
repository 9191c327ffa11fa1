import Stencil.Files

/-!
# File trees

Files, directories and symbolic links as a value. A path is followed part by part, so a double dot after a part
that is not there leads nowhere, and one after a link leaves the directory to which the link leads. Permissions
are left out: what is there can be read, and what a path leads to can be written, so the errors that a program
has for a file that it finds and cannot read do not come up over a tree.
-/
namespace Stencil

open Text (Bytes)

inductive Entry where
  | file (content : Bytes)
  | directory
  /-- A symbolic link. Slashes at the end of its target do not count. -/
  | link (target : Path)
  deriving DecidableEq, Repr

/-- Entries by the parts of their absolute paths. The root is there without an entry. -/
structure FileTree where
  entries : List (List String × Entry)

namespace FileTree

def empty : FileTree := ⟨[]⟩

def entry? (t : FileTree) (place : List String) : Option Entry :=
  if place.isEmpty then some .directory else t.entries.lookup place

def set (t : FileTree) (place : List String) (e : Entry) : FileTree :=
  ⟨(place, e) :: t.entries.filter fun p => p.1 ≠ place⟩

/-- The longest name that an entry may have, in bytes. -/
def longestName : Nat := 255

/-- The longest path that is followed, in bytes. -/
def longestPath : Nat := 4095

def isTooLong (name : String) : Bool := name.utf8ByteSize > longestName

/-- How many links a path may lead through. -/
def mostLinks : Nat := 40

/-- How far a path leads. -/
inductive Walk where
  /-- To a place, and so many more links could be followed. -/
  | arrived (place : List String) (links : Nat)
  /-- No further than to a place, with the parts that are left. -/
  | stopped (fault : FileFault) (place rest : List String)
  deriving DecidableEq, Repr

/-- The place that a path leads to, or why it leads to none. -/
def Walk.result : Walk → Except FileFault (List String)
  | arrived place _ => .ok place
  | stopped fault _ _ => .error fault

/-- Where following a path begins, seen from `here`. -/
def origin (here : List String) (p : Path) : List String := if p.isAbsolute then [] else here

/-- Follows the parts of a path from a place, and leaves the first link on the way to `next`. -/
def followWith (t : FileTree) (links : Nat) (next : Option (List String → List String → Walk))
    (place : List String) : List String → Walk
  | [] => .arrived place links
  | part :: rest =>
    match t.entry? place with
    | some .directory =>
      if part = ".." then followWith t links next place.dropLast rest
      else if isTooLong part then .stopped .nameTooLong place (part :: rest)
      else
        match t.entry? (place ++ [part]) with
        | none => .stopped .missing place (part :: rest)
        | some (.link target) =>
          match next with
          | none => .stopped .tooManyLinks place (part :: rest)
          | some next => next (origin place target) (target.parts ++ rest)
        | some _ => followWith t links next (place ++ [part]) rest
    | _ => .stopped .notDirectory place (part :: rest)

/-- Follows the parts of a path from a place, and at most so many links. -/
def follow (t : FileTree) : Nat → List String → List String → Walk
  | 0 => t.followWith 0 none
  | links + 1 => t.followWith (links + 1) (some (t.follow links))

/-- How far a path leads in `directory`. -/
def walk (t : FileTree) (directory p : Path) : Walk :=
  if p.text.utf8ByteSize > longestPath then .stopped .nameTooLong (origin directory.parts p) p.parts
  else t.follow mostLinks (origin directory.parts p) p.parts

/-- The place of an entry that is there. -/
def locate (t : FileTree) (directory p : Path) : Except FileFault (List String) := (t.walk directory p).result

def kind (t : FileTree) (directory p : Path) : Except FileFault FileKind := do
  match t.entry? (← t.locate directory p) with
  | some (.file _) => return .file
  | some .directory => return .directory
  | _ => .error .missing

def read (t : FileTree) (directory p : Path) : Except FileFault Bytes := do
  match t.entry? (← t.locate directory p) with
  | some (.file content) => return content
  | some .directory => .error .isDirectory
  | _ => .error .missing

/-- Makes a directory. A link at the end of the path is not followed. -/
def makeDirectory (t : FileTree) (directory p : Path) : Except FileFault FileTree := do
  match p.parts.getLast? with
  | none => .error .alreadyExists
  | some name =>
    if p.text.utf8ByteSize > longestPath then .error .nameTooLong
    else
      let above ← t.locate directory p.parent
      if t.entry? above ≠ some .directory then .error .notDirectory
      else if name = ".." then .error .alreadyExists
      else if isTooLong name then .error .nameTooLong
      else if (t.entry? (above ++ [name])).isSome then .error .alreadyExists
      else return t.set (above ++ [name]) .directory

/-- Writes a file where a path leads, which may be through a link to what is not there yet. -/
def write (t : FileTree) (directory p : Path) (content : Bytes) : Except FileFault FileTree :=
  match t.walk directory p with
  | .arrived place _ =>
    match t.entry? place with
    | some (.file _) => .ok (t.set place (.file content))
    | some .directory => .error .isDirectory
    | _ => .error .missing
  | .stopped .missing place [name] => .ok (t.set (place ++ [name]) (.file content))
  | .stopped fault _ _ => .error fault

/-! ### Paths without links -/

/-- What comes of a path whose links are taken away. -/
inductive Unlinked where
  | plain (p : Path)
  /-- A path with a link that leads back to itself. -/
  | looped (p : Path)
  | tooNested
  deriving DecidableEq, Repr

/-- Takes the links of some parts away, seen from `done`, which has none. The target of a link is left to `inner`.
The links in `active` are being taken away. -/
def unlinkWith (t : FileTree) (directory : Path) (inner : Option (List Path → Path → List String → Unlinked))
    (active : List Path) (done : Path) : List String → Unlinked
  | [] => .plain done
  | part :: rest =>
    if part = ".." then unlinkWith t directory inner active done.up rest
    else
      match t.entry? (directory.resolve (done.child part)).parts with
      | some (.link target) =>
        if done.child part ∈ active then .looped ⟨done.slashes, done.parts ++ part :: rest⟩
        else
          match inner with
          | none => .tooNested
          | some inner =>
            match inner (done.child part :: active) (done.origin target) target.parts with
            | .plain place => unlinkWith t directory (some inner) active place rest
            | .looped p => .looped ⟨p.slashes, p.parts ++ rest⟩
            | .tooNested => .tooNested
      | _ => unlinkWith t directory inner active (done.child part) rest

/-- Takes the links of some parts away, with at most so many links inside of links. -/
def unlink (t : FileTree) (directory : Path) : Nat → List Path → Path → List String → Unlinked
  | 0 => t.unlinkWith directory none
  | depth + 1 => t.unlinkWith directory (some (t.unlink directory depth))

/-- About how many links inside of links can be taken away. -/
def deepestLink : Nat := 1000

/-- The absolute path without links and double dots that `p` denotes in `directory`. A link that leads back to
itself is no obstacle if double dots take it away again. -/
def resolve (t : FileTree) (directory p : Path) : Except LinkFault Path :=
  match t.unlink directory deepestLink [] (Path.origin ⟨0, []⟩ p) p.parts with
  | .plain q | .looped q =>
    match t.locate directory (directory.resolve q) with
    | .error .tooManyLinks => .error (.loop (directory.resolve q).text)
    | _ => .ok (directory.resolve q)
  | .tooNested => .error .tooNested

/-! ### Building trees -/

/-- Adds directories one in another. -/
def addDirectories (t : FileTree) (place : List String) : List String → FileTree
  | [] => t
  | part :: rest => addDirectories (t.set (place ++ [part]) .directory) (place ++ [part]) rest

/-- Adds a file with all the directories above it. -/
def add (t : FileTree) (place : List String) (content : Bytes) : FileTree :=
  (t.addDirectories [] place.dropLast).set place (.file content)

/-- The files in a directory, as the parts of their paths from there. -/
def filesIn (t : FileTree) (place : List String) : List (List String) :=
  t.entries.filterMap fun
    | (p, .file _) => if place.isPrefixOf p then some (p.drop place.length) else none
    | _ => none

end FileTree

/-- A file tree and a working directory. -/
structure Disk where
  tree : FileTree
  directory : Path

namespace Disk

variable {m : Type → Type} [Monad m] [MonadStateOf Disk m]

/-- Puts a changed tree in place. -/
def update (change : Disk → Except FileFault FileTree) : m (Except FileFault Unit) := do
  let disk ← getThe Disk
  match change disk with
  | .ok tree =>
    set { disk with tree }
    return .ok ()
  | .error fault => return .error fault

/-- The operations on the files of the state. -/
def files : Files m where
  workingDirectory := do return (← getThe Disk).directory
  real p := do
    let disk ← getThe Disk
    return disk.tree.resolve disk.directory p
  kind p := do
    let disk ← getThe Disk
    return disk.tree.kind disk.directory p
  read p := do
    let disk ← getThe Disk
    return disk.tree.read disk.directory p
  makeDirectory p := update fun disk => disk.tree.makeDirectory disk.directory p
  write p content := update fun disk => disk.tree.write disk.directory p content

end Disk

end Stencil
