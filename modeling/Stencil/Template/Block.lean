import Stencil.Text.Quoted

/-!
# Blocks

A template is a sequence of blocks: texts, directives around further blocks, and choices between two
sequences. Directives and blocks of kinds that this library gives no meaning to have a place in the tree
as well, under the name of their kind, and so do plain texts, so that every tree can be listed and walked.
-/
namespace Stencil.Template

inductive Directive where
  /-- Its children stand for themselves; the header is a remark. -/
  | group (header : String)
  /-- Its children count only if the condition holds. -/
  | guard (condition : String)
  /-- Stands for the template found at `path`. -/
  | inclusion (path : String)
  /-- Stands for the value of `expression`, where `name` is bound to what the children produce. -/
  | transform (name expression : String)
  /-- A directive of a kind without meaning here. -/
  | custom (kind : String)
  deriving DecidableEq, Repr

/-- A value that is no block: the name of its type, and its characters if it is a text. -/
structure Foreign where
  kind : String
  spelled : Option String
  deriving DecidableEq, Inhabited, Repr

inductive Block where
  | text (content : String)
  | directive (kind : Directive) (children : List Block)
  /-- The children if the condition holds, else the blocks of `otherwise`. -/
  | choice (condition : String) (children otherwise : List Block)
  /-- A value without meaning as a block. -/
  | foreign (value : Foreign)
  deriving Inhabited, Repr

/-- A directive in one line, in the form of its header. -/
def Directive.describe : Directive → String
  | group header => "noop " ++ Text.quote header
  | guard condition => "if " ++ condition
  | inclusion path => "include " ++ path
  | transform name expression => s!"transform {name}: {expression}"
  | custom kind => kind

def describeChoice (condition : String) : String := "ifelse " ++ condition

namespace Block

/-- The blocks directly below a block, those of the second branch last. -/
def inner : Block → List Block
  | directive _ children => children
  | choice _ children otherwise => children ++ otherwise
  | text _ | foreign _ => []

mutual
/-- How many blocks a block and everything below it are. -/
def weight : Block → Nat
  | directive _ children => weights children + 1
  | choice _ children otherwise => weights children + weights otherwise + 1
  | text _ | foreign _ => 1

/-- How many blocks a sequence and everything below it are. -/
def weights : List Block → Nat
  | [] => 0
  | b :: bs => weight b + weights bs
end

theorem weights_append (a b : List Block) : weights (a ++ b) = weights a + weights b := by
  induction a with
  | nil => simp [weights]
  | cons x xs ih => simp only [List.cons_append, weights, ih]; omega

theorem weights_reverse (blocks : List Block) : weights blocks.reverse = weights blocks := by
  induction blocks with
  | nil => rfl
  | cons b bs ih => simp only [List.reverse_cons, weights_append, weights, ih]; omega

theorem weight_eq (b : Block) : weight b = weights b.inner + 1 := by
  cases b <;> simp [weight, inner, weights, weights_append]

/-- Counts the blocks still to visit and everything below them, one at a time, the last one first. -/
def countFrom (pending : List Block) (total : Nat) : Nat :=
  match pending with
  | [] => total
  | b :: rest => countFrom (b.inner.reverse ++ rest) (total + 1)
  termination_by weights pending
  decreasing_by simp only [weights_append, weights_reverse, weights, weight_eq b]; omega

/-- How many blocks a template holds, nested ones included. -/
def count (blocks : List Block) : Nat := countFrom blocks.reverse 0

end Block

end Stencil.Template
