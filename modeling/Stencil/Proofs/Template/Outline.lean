import Stencil.Template.Listing
import Stencil.Proofs.Template.Walking

/-!
# Outlines by recursion

The rows of an outline in the order of the tree: a block, and below it what is in it, one level deeper; the
branches of a choice stand under labels of their own, and a branch without blocks has none. Main statement: the
list of waiting lines yields these rows and no others, as many for blocks as there are blocks, and as many for
labels as there are branches with something in them. The list does not tell a label from a plain text in the
place of a block, so a line is compared with a row by what both show.
-/
namespace Stencil.Template

/-- A row of an outline, and its level of indentation. -/
inductive Row where
  | label (level : Int) (word : String)
  | block (level : Int) (headline : String)
  deriving DecidableEq, Repr

namespace Row

def level : Row → Int
  | label level _ | block level _ => level

def entry : Row → String
  | label _ word => word
  | block _ headline => headline

/-- What is seen of a row. -/
def shown (r : Row) : Int × String := (r.level, r.entry)

def text (r : Row) : String := Listing.indentation r.level ++ r.entry

/-- The text of a row, if it can be indented. -/
def print (r : Row) : Except Error String := return (← Listing.indent r.level) ++ r.entry

def isLabel : Row → Bool
  | label .. => true
  | block .. => false

def isBlock : Row → Bool
  | label .. => false
  | block .. => true

end Row

namespace Block

/-- A block in one line, without the blocks in it. Of a long text only the beginning is shown; a plain text in
the place of a block stands for itself. -/
def headline : Block → String
  | text content => "Text(" ++ Text.quote (preview 50 content) ++ ")"
  | directive kind _ => "Directive(" ++ kind.describe ++ ")"
  | choice condition _ _ => "Directive(" ++ describeChoice condition ++ ")"
  | foreign value => value.spelled.getD value.kind

theorem headline_text (content : String) :
    (text content).headline = "Text(" ++ Text.quote (preview 50 content) ++ ")" := rfl

theorem headline_directive (kind : Directive) (children : List Block) :
    (directive kind children).headline = "Directive(" ++ kind.describe ++ ")" := rfl

theorem headline_choice (condition : String) (children otherwise : List Block) :
    (choice condition children otherwise).headline = "Directive(" ++ describeChoice condition ++ ")" := rfl

/-- The rows of a branch below its label, or nothing if the branch is empty. -/
def labelled (word : String) (level : Int) (branch : List Block) (below : List Row) : List Row :=
  if branch.isEmpty then [] else .label level word :: below

mutual
/-- The rows of all that is in a block on this level. -/
def rowsBelow (level : Int) : Block → List Row
  | directive _ children => rowsAll (level + 1) children
  | choice _ children otherwise =>
    labelled "then:" (level + 1) children (rowsAll (level + 2) children) ++
      labelled "else:" (level + 1) otherwise (rowsAll (level + 2) otherwise)
  | text _ | foreign _ => []

/-- The rows of blocks on this level, each with what is in it. -/
def rowsAll (level : Int) : List Block → List Row
  | [] => []
  | b :: bs => .block level b.headline :: (rowsBelow level b ++ rowsAll level bs)
end

mutual
/-- The two branches of every choice in a block. -/
def branches : Block → List (List Block)
  | choice _ children otherwise => children :: otherwise :: (branchesAll children ++ branchesAll otherwise)
  | directive _ children => branchesAll children
  | text _ | foreign _ => []

def branchesAll : List Block → List (List Block)
  | [] => []
  | b :: bs => branches b ++ branchesAll bs
end

end Block

open Block (rowsBelow rowsAll labelled branches branchesAll)

/-! ### Lines that wait -/

namespace Listing

theorem describe_ofBlock (b : Block) : (Entry.ofBlock b).describe = b.headline := by
  unfold Entry.ofBlock
  split
  · rfl
  · rename_i hplain
    cases b with
    | foreign value =>
      obtain ⟨kind, spelled⟩ := value
      cases spelled with
      | none => rfl
      | some s => exact absurd rfl (hplain kind s)
    | _ => rfl

/-- What is seen of a line and of all below it. -/
def shownBy (l : Line) : List (Int × String) :=
  (l.2, l.1.describe) :: match l.1 with
    | .text _ => []
    | .block b => (rowsBelow l.2 b).map Row.shown

theorem shownBy_ofBlock (b : Block) (level : Int) :
    shownBy (.ofBlock b, level) = (level, b.headline) :: (rowsBelow level b).map Row.shown := by
  rw [shownBy, describe_ofBlock]
  unfold Entry.ofBlock
  split <;> rfl

theorem flatMap_shownBy_atLevel (level : Int) (blocks : List Block) :
    (atLevel level blocks).flatMap shownBy = (rowsAll level blocks).map Row.shown := by
  induction blocks with
  | nil => rfl
  | cons b bs ih =>
    rw [atLevel, List.map_cons, List.flatMap_cons, shownBy_ofBlock, rowsAll, List.map_cons, List.map_append, ← ih]
    rfl

theorem flatMap_shownBy_branch (word : String) (level : Int) (blocks : List Block) :
    (branch word level blocks).flatMap shownBy
      = (labelled word level blocks (rowsAll (level + 1) blocks)).map Row.shown := by
  cases blocks with
  | nil => rfl
  | cons b bs =>
    rw [branch, List.flatMap_cons, flatMap_shownBy_atLevel]
    rfl

/-- A line is seen first, and then what is seen of the lines directly below it. -/
theorem shownBy_eq (l : Line) : shownBy l = (l.2, l.1.describe) :: (inner l).flatMap shownBy := by
  obtain ⟨e, level⟩ := l
  cases e with
  | text s => rfl
  | block b =>
    cases b with
    | text content => rfl
    | foreign value => rfl
    | directive kind children =>
      rw [inner, flatMap_shownBy_atLevel]
      rfl
    | choice condition children otherwise =>
      have hlevel : level + 1 + 1 = level + 2 := by omega
      rw [inner, List.flatMap_append, flatMap_shownBy_branch, flatMap_shownBy_branch, hlevel, ← List.map_append]
      rfl

/-- What is done stays, and each line that waits is seen with all below it, the first one first. -/
theorem map_walk (done : Array Line) (pending : List Line) :
    (walk done pending).toList.map (fun l => (l.2, l.1.describe))
      = done.toList.map (fun l => (l.2, l.1.describe)) ++ pending.flatMap shownBy := by
  fun_induction walk done pending with
  | case1 done => simp
  | case2 done l rest ih =>
    rw [ih, List.flatMap_cons, shownBy_eq l]
    simp

/-- The lines of an outline are seen as its rows. -/
theorem map_lines (blocks : List Block) (level : Int) :
    (lines blocks level).map (fun l => (l.2, l.1.describe)) = (rowsAll level blocks).map Row.shown := by
  rw [lines, map_walk, flatMap_shownBy_atLevel]
  rfl

end Listing

/-! ### Counting rows -/

theorem countP_labelled (p : Row → Bool) (word : String) (level inner : Int) (branch : List Block) :
    (labelled word level branch (rowsAll inner branch)).countP p
      = (rowsAll inner branch).countP p + if !branch.isEmpty && p (.label level word) then 1 else 0 := by
  cases branch with
  | nil => rfl
  | cons b bs => simp [labelled, List.countP_cons]

mutual
theorem countP_isBlock_rowsBelow (level : Int) (b : Block) :
    (rowsBelow level b).countP Row.isBlock + 1 = b.weight := by
  cases b with
  | text content => rfl
  | foreign value => rfl
  | directive kind children => rw [rowsBelow, countP_isBlock_rowsAll, Block.weight]
  | choice condition children otherwise =>
    rw [rowsBelow, List.countP_append, countP_labelled, countP_labelled, countP_isBlock_rowsAll,
      countP_isBlock_rowsAll, Block.weight]
    simp [Row.isBlock]

theorem countP_isBlock_rowsAll (level : Int) (blocks : List Block) :
    (rowsAll level blocks).countP Row.isBlock = Block.weights blocks := by
  cases blocks with
  | nil => rfl
  | cons b bs =>
    have hbelow := countP_isBlock_rowsBelow level b
    have hothers := countP_isBlock_rowsAll level bs
    rw [rowsAll, List.countP_cons_of_pos rfl, List.countP_append, hothers, Block.weights]
    omega
end

mutual
theorem countP_isLabel_rowsBelow (level : Int) (b : Block) :
    (rowsBelow level b).countP Row.isLabel = (branches b).countP (!·.isEmpty) := by
  cases b with
  | text content => rfl
  | foreign value => rfl
  | directive kind children => rw [rowsBelow, countP_isLabel_rowsAll, branches]
  | choice condition children otherwise =>
    rw [rowsBelow, List.countP_append, countP_labelled, countP_labelled, countP_isLabel_rowsAll,
      countP_isLabel_rowsAll, branches, List.countP_cons, List.countP_cons, List.countP_append]
    simp only [Row.isLabel, Bool.and_true]
    omega

theorem countP_isLabel_rowsAll (level : Int) (blocks : List Block) :
    (rowsAll level blocks).countP Row.isLabel = (branchesAll blocks).countP (!·.isEmpty) := by
  cases blocks with
  | nil => rfl
  | cons b bs =>
    rw [rowsAll, List.countP_cons_of_neg (by simp [Row.isLabel]), List.countP_append,
      countP_isLabel_rowsBelow level b, countP_isLabel_rowsAll level bs, branchesAll, List.countP_append]
end

theorem listing_eq (blocks : List Block) (level : Int) :
    listing blocks level = String.intercalate "\n" ((rowsAll level blocks).map Row.text) := by
  have hlines := congrArg (List.map fun p => Listing.indentation p.1 ++ p.2) (Listing.map_lines blocks level)
  rw [List.map_map, List.map_map] at hlines
  exact congrArg (String.intercalate "\n") hlines

/-- An outline is printed as the rows that the recursion yields, at every level: line by line, or with the error of
the first row that cannot be indented. It has one row for each block of the template and one label for each branch
with blocks in it. -/
theorem print_eq_rows (blocks : List Block) (level : Int) :
    Listing.print blocks level
        = (((rowsAll level blocks).mapM Row.print).map (String.intercalate "\n") : Except Error String) ∧
      (rowsAll level blocks).countP Row.isBlock = Block.count blocks ∧
      (rowsAll level blocks).countP Row.isLabel = (branchesAll blocks).countP (!·.isEmpty) := by
  refine ⟨?_, ?_, countP_isLabel_rowsAll level blocks⟩
  · have hlines := congrArg (List.mapM fun p => (return (← Listing.indent p.1) ++ p.2 : Except Error String))
      (Listing.map_lines blocks level)
    rw [List.mapM_map, List.mapM_map] at hlines
    exact congrArg (Except.map (String.intercalate "\n")) hlines
  · rw [countP_isBlock_rowsAll, Block.count, Block.countFrom_eq, Block.weights_reverse, Nat.add_zero]

/-- A text in the place of a block shows itself and not its type, and no blank is repeated more often than an index
of the machine says. -/
theorem print_unlike_rows :
    Listing.print [.foreign ⟨"str", some "hello"⟩] 0 = .ok "hello" ∧
      Listing.print [.text "a"] (-9223372036854775809) = .error (.excessive .index) := by
  decide +kernel

end Stencil.Template
