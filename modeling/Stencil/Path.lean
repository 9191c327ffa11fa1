/-!
# Paths

Slash-separated paths as lists of components. Reading a path drops empty components and single dots and
keeps double dots; resolving one takes double dots away against the components before them. Nothing here
looks at files: resolving is lexical, and what it yields has no double dot left.
-/
namespace Stencil

/-- `slashes` is how many slashes lead: none for a relative path, else one or two. -/
structure Path where
  slashes : Nat
  parts : List String
  deriving DecidableEq, Repr

namespace Path

/-- The pieces between slashes. -/
def pieces : List Char → List (List Char)
  | [] => [[]]
  | c :: cs =>
    if c = '/' then [] :: pieces cs
    else
      match pieces cs with
      | [] => [[c]]
      | p :: ps => (c :: p) :: ps

/-- The pieces that name something: neither empty nor a single dot. -/
def components (cs : List Char) : List String :=
  ((pieces cs).map String.ofList).filter fun p => p ≠ "" && p ≠ "."

/-- One leading slash counts, and so do exactly two; three or more count as one. -/
def leadingSlashes : List Char → Nat
  | '/' :: '/' :: '/' :: _ => 1
  | '/' :: '/' :: _ => 2
  | '/' :: _ => 1
  | _ => 0

def ofString (s : String) : Path := ⟨leadingSlashes s.toList, components s.toList⟩

def isAbsolute (p : Path) : Bool := p.slashes != 0

def text (p : Path) : String :=
  match p.slashes, p.parts with
  | 0, [] => "."
  | n, parts => String.ofList (List.replicate n '/') ++ String.intercalate "/" parts

/-- `q` as seen from `p`; an absolute `q` stands for itself. -/
def join (p q : Path) : Path :=
  if q.isAbsolute then q else ⟨p.slashes, p.parts ++ q.parts⟩

def child (p : Path) (name : String) : Path := ⟨p.slashes, p.parts ++ [name]⟩

def parent (p : Path) : Path := ⟨p.slashes, p.parts.dropLast⟩

/-- The last component, empty if there is none. -/
def name (p : Path) : String := p.parts.getLast?.getD ""

/-- One level up, by the components alone. A relative path may go up from where it starts. -/
def up (p : Path) : Path :=
  match p.parts.getLast? with
  | none => if p.isAbsolute then p else p.child ".."
  | some last => if last = ".." then p.child ".." else p.parent

/-- Where the components of `p` go on from, seen from `here`. -/
def origin (here p : Path) : Path := if p.isAbsolute then ⟨1, []⟩ else here

/-- Takes double dots away. `done` holds the components so far, the newest first; at the top a double dot
stays where it is. -/
def climb (done : List String) : List String → List String
  | [] => done.reverse
  | ".." :: rest => climb (done.drop 1) rest
  | part :: rest => climb (part :: done) rest

/-- The absolute path without double dots that `p` denotes in the directory `base`. -/
def resolve (base p : Path) : Path := ⟨1, climb [] (base.join p).parts⟩

/-- Does `p` lie in `root`, or is it `root` itself? -/
def isWithin (root p : Path) : Bool := p.slashes == root.slashes && root.parts.isPrefixOf p.parts

/-- Takes away the double dots that follow a component. Those at the head stay in a relative path and
vanish in an absolute one. -/
def squeeze (absolute : Bool) (done : List String) : List String → List String
  | [] => done.reverse
  | ".." :: rest =>
    match done with
    | [] => squeeze absolute (if absolute then [] else [".."]) rest
    | last :: before =>
      if last = ".." then squeeze absolute (".." :: last :: before) rest
      else squeeze absolute before rest
  | part :: rest => squeeze absolute (part :: done) rest

/-- The shortest text of a path, by its components alone. -/
def normalize (s : String) : String :=
  let p := ofString s
  text ⟨p.slashes, squeeze p.isAbsolute [] p.parts⟩

end Path

end Stencil
