import Stencil.Error
import Stencil.Template.Block

/-!
# Listings

A template as an indented outline: one line for each block, and a label above each branch of a choice
that has blocks. Lines wait on a list until their turn, so depth costs no stack. A plain text in the place of
a block waits there like a label.
-/
namespace Stencil.Template.Listing

/-- What a line shows: a text as it is, or a block. -/
inductive Entry where
  | text (s : String)
  | block (b : Block)

/-- An entry and its level of indentation. -/
abbrev Line := Entry × Int

def Entry.ofBlock : Block → Entry
  | .foreign ⟨_, some s⟩ => text s
  | b => block b

def Entry.describe : Entry → String
  | text s => s
  | block (.text content) => "Text(" ++ Text.quote (preview 50 content) ++ ")"
  | block (.directive kind _) => "Directive(" ++ kind.describe ++ ")"
  | block (.choice condition _ _) => "Directive(" ++ describeChoice condition ++ ")"
  | block (.foreign value) => value.kind

def atLevel (level : Int) (blocks : List Block) : List Line :=
  blocks.map fun b => (.ofBlock b, level)

/-- A branch of a choice: its label and its blocks, or nothing if it is empty. -/
def branch (label : String) (level : Int) : List Block → List Line
  | [] => []
  | b :: bs => (.text label, level) :: atLevel (level + 1) (b :: bs)

/-- The lines directly below a line. -/
def inner : Line → List Line
  | (.block (.directive _ children), level) => atLevel (level + 1) children
  | (.block (.choice _ children otherwise), level) =>
    branch "then:" (level + 1) children ++ branch "else:" (level + 1) otherwise
  | (.block (.text _), _) | (.block (.foreign _), _) | (.text _, _) => []

def Entry.weight : Entry → Nat
  | text _ => 1
  | block b => 3 * b.weight

def weights : List Line → Nat
  | [] => 0
  | l :: lines => l.1.weight + weights lines

theorem weights_append (a b : List Line) : weights (a ++ b) = weights a + weights b := by
  induction a with
  | nil => simp [weights]
  | cons l lines ih => simp only [List.cons_append, weights, ih]; omega

theorem weight_ofBlock_le (b : Block) : (Entry.ofBlock b).weight ≤ 3 * b.weight := by
  unfold Entry.ofBlock
  split
  · simp [Entry.weight, Block.weight]
  · exact Nat.le_refl _

theorem weights_atLevel_le (level : Int) (blocks : List Block) :
    weights (atLevel level blocks) ≤ 3 * Block.weights blocks := by
  induction blocks with
  | nil => exact Nat.le_refl _
  | cons b bs ih =>
    have hfirst := weight_ofBlock_le b
    simp only [atLevel, weights, List.map_cons, Block.weights] at *
    omega

theorem weights_branch_le (label : String) (level : Int) (blocks : List Block) :
    weights (branch label level blocks) ≤ 3 * Block.weights blocks + 1 := by
  cases blocks with
  | nil => simp [branch, weights]
  | cons b bs =>
    have h := weights_atLevel_le (level + 1) (b :: bs)
    simp only [branch, weights, Entry.weight] at *
    omega

theorem weights_inner_lt (l : Line) : weights (inner l) < l.1.weight := by
  obtain ⟨e, level⟩ := l
  cases e with
  | text s => simp [inner, weights, Entry.weight]
  | block b =>
    cases b with
    | text content => simp [inner, weights, Entry.weight, Block.weight]
    | foreign value => simp [inner, weights, Entry.weight, Block.weight]
    | directive kind children =>
      have h := weights_atLevel_le (level + 1) children
      simp only [inner, Entry.weight, Block.weight]; omega
    | choice condition children otherwise =>
      have h1 := weights_branch_le "then:" (level + 1) children
      have h2 := weights_branch_le "else:" (level + 1) otherwise
      simp only [inner, Entry.weight, Block.weight, weights_append]; omega

/-- Appends the lines that are waiting, and all below them, to those that are done. -/
def walk (done : Array Line) (pending : List Line) : Array Line :=
  match pending with
  | [] => done
  | l :: rest => walk (done.push l) (inner l ++ rest)
  termination_by weights pending
  decreasing_by
    have h := weights_inner_lt l
    rw [weights_append, weights]
    omega

/-- The lines of an outline that is indented by `level` steps. -/
def lines (blocks : List Block) (level : Int) : List Line := (walk #[] (atLevel level blocks)).toList

/-! ### Indentation -/

/-- Two spaces for each step. -/
def indentation (level : Int) : String := String.ofList (List.replicate (2 * level.toNat) ' ')

/-- The largest index of the machine. -/
def maxIndex : Int := 9223372036854775807

/-- A text is repeated as often as an index says, negative ones included, and is no longer than one. -/
def indent (level : Int) : Except Error String :=
  if level < -maxIndex - 1 ∨ maxIndex < level then .error (.excessive .index)
  else if maxIndex < 2 * level then .error (.excessive .length)
  else .ok (indentation level)

/-- The outline of a template, indented by `level` steps. -/
def print (blocks : List Block) (level : Int) : Except Error String := do
  let lines ← (lines blocks level).mapM fun (e, level) => return (← indent level) ++ e.describe
  return String.intercalate "\n" lines

end Listing

/-- The outline of a template where it can be indented. -/
def listing (blocks : List Block) (level : Int) : String :=
  String.intercalate "\n" ((Listing.lines blocks level).map fun (e, level) => Listing.indentation level ++ e.describe)

end Stencil.Template
