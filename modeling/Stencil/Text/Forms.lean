import Stencil.Text.CharClass

/-!
# Forms of characters

Tables that give a character another form, of one character or of several. Characters that a table does
not mention have none.
-/
namespace Stencil.Text

/-- Stretches of characters with a one-character form: first character, count, step and first form. -/
structure ShortForms where
  runs : Array (Nat × Nat × Nat × Nat)

namespace ShortForms

def ofText (lines : List String) : ShortForms :=
  let numbers := CharClass.numbers lines
  ⟨(Array.range (numbers.size / 4)).map fun i =>
    (numbers.getD (4 * i) 0, numbers.getD (4 * i + 1) 0, numbers.getD (4 * i + 2) 1,
      numbers.getD (4 * i + 3) 0)⟩

def find? (k : ShortForms) (n : Nat) : Option Nat :=
  k.runs.findSome? fun (first, count, step, form) =>
    if first ≤ n && n < first + count * step && (n - first) % step == 0 then some (form + (n - first))
    else none

end ShortForms

/-- Characters with a form of several characters. -/
structure LongForms where
  entries : List (Nat × List Char)

namespace LongForms

/-- Reads entries of a character, a length and that many characters. -/
def read : Nat → List Nat → List (Nat × List Char)
  | fuel + 1, n :: size :: rest => (n, (rest.take size).map Char.ofNat) :: read fuel (rest.drop size)
  | _, _ => []

def ofText (lines : List String) : LongForms :=
  let numbers := (CharClass.numbers lines).toList
  ⟨read numbers.length numbers⟩

def find? (k : LongForms) (n : Nat) : Option (List Char) := k.entries.lookup n

end LongForms

end Stencil.Text
