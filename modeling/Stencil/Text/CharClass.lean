/-!
# Classes of characters

A class is kept as its edges: the code points where it begins and ends, in increasing order. A character
is inside when an odd number of edges lies at or before it.
-/
namespace Stencil.Text

structure CharClass where
  edges : Array Nat

namespace CharClass

/-- The value of a digit of base 36. -/
def digit (c : Char) : Nat :=
  if c.isDigit then c.toNat - '0'.toNat else c.toNat - 'a'.toNat + 10

/-- A number in base 36. -/
def number (cs : List Char) : Nat := cs.foldl (fun n c => n * 36 + digit c) 0

/-- The numbers of some lines, in base 36, each ended by a blank or by the end of its line. -/
def numbers (lines : List String) : Array Nat :=
  let (done, last, inside) := (String.intercalate " " lines).foldl
    (fun (done, last, inside) c =>
      if c = ' ' then (if inside then done.push last else done, 0, false)
      else (done, last * 36 + digit c, true))
    (#[], 0, false)
  if inside then done.push last else done

/-- A class from the lengths of the stretches outside and inside it, in turn. -/
def ofRuns (runs : List String) : CharClass :=
  ⟨(numbers runs).foldl (fun edges n => edges.push (edges.back?.getD 0 + n)) #[]⟩

/-- How many edges in `edges[low:high]` lie at or before `n`, plus `low`. -/
def rank (edges : Array Nat) (n low : Nat) : Nat → Nat
  | 0 => low
  | width + 1 =>
    let middle := low + width / 2
    if edges.getD middle (n + 1) ≤ n then rank edges n (middle + 1) (width - width / 2)
    else rank edges n low (width / 2)
  termination_by width => width
  decreasing_by all_goals omega

def contains (k : CharClass) (c : Char) : Bool :=
  rank k.edges c.toNat 0 k.edges.size % 2 == 1

end CharClass

end Stencil.Text
