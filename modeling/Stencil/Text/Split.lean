import Stencil.Text.Blank

/-!
# Finding and splitting text

Where a text occurs in another one, and the pieces between its occurrences. Joining the pieces with the
separator gives the text back.
-/
namespace Stencil.Text

/-- What is before and after the first occurrence of `sep`. -/
def cutAt? (sep : List Char) : List Char → Option (List Char × List Char)
  | [] => if sep.isEmpty then some ([], []) else none
  | c :: cs =>
    if sep.isPrefixOf (c :: cs) then some ([], (c :: cs).drop sep.length)
    else (cutAt? sep cs).map fun (before, after) => (c :: before, after)

/-- The pieces between the first `n` occurrences of a separator that is not empty. -/
def splitAt (sep : List Char) : Nat → List Char → List (List Char)
  | 0, s => [s]
  | n + 1, s =>
    match cutAt? sep s with
    | none => [s]
    | some (before, after) => before :: splitAt sep n after

def reverseAll (pieces : List (List Char)) : List (List Char) := (pieces.map List.reverse).reverse

/-- The pieces between the last `n` occurrences. -/
def splitAtEnd (sep : List Char) (n : Nat) (s : List Char) : List (List Char) :=
  reverseAll (splitAt sep.reverse n s.reverse)

/-- The first `n` words, and the rest as it is. -/
def splitWords : Nat → List Char → List (List Char)
  | 0, s => if (trimStart s).isEmpty then [] else [trimStart s]
  | n + 1, s =>
    let s := trimStart s
    if s.isEmpty then [] else (spanWord s).1 :: splitWords n (spanWord s).2

/-- The last `n` words, and what is before them as it is. -/
def splitWordsAtEnd (n : Nat) (s : List Char) : List (List Char) :=
  reverseAll (splitWords n s.reverse)

/-- All words of some lines. -/
def words (lines : List String) : List String :=
  lines.flatMap fun line => (splitWords line.length line.toList).map String.ofList

def joinWith (sep : List Char) (pieces : List (List Char)) : List Char := List.intercalate sep pieces

/-- `new` before each of the first `n` characters, and at the end while the count lasts. -/
def interleave (new : List Char) : Nat → List Char → List Char
  | 0, s => s
  | _ + 1, [] => new
  | n + 1, c :: cs => new ++ c :: interleave new n cs

/-- Replaces the first `n` occurrences, from left to right. -/
def replaceFirst (old new : List Char) (n : Nat) (s : List Char) : List Char :=
  if old.isEmpty then interleave new n s else joinWith new (splitAt old n s)

/-- How often a text occurs without overlap. The empty text occurs at every place. -/
def countOf (needle s : List Char) : Nat :=
  if needle.isEmpty then s.length + 1 else (splitAt needle s.length s).length - 1

/-- The place of the first occurrence. -/
def indexOf? (needle s : List Char) : Option Nat := (cutAt? needle s).map (·.1.length)

/-- The place of the last occurrence. -/
def lastIndexOf? (needle s : List Char) : Option Nat :=
  (cutAt? needle.reverse s.reverse).map (·.2.length)

def occursIn (needle s : List Char) : Bool := (cutAt? needle s).isSome

/-- Line feed, carriage return, vertical tabulator, form feed, three separators, next line, line and
paragraph separator. -/
def endsLine (c : Char) : Bool :=
  let n := c.toNat
  (0x0A ≤ n && n ≤ 0x0D) || (0x1C ≤ n && n ≤ 0x1E) || n == 0x85 || n == 0x2028 || n == 0x2029

/-- The lines of a text, with their ends if `keep`. `line` is the current one, reversed. -/
def linesFrom (keep : Bool) (line : List Char) : List Char → List (List Char)
  | [] => if line.isEmpty then [] else [line.reverse]
  | '\r' :: '\n' :: rest =>
    (if keep then '\n' :: '\r' :: line else line).reverse :: linesFrom keep [] rest
  | c :: rest =>
    if endsLine c then (if keep then c :: line else line).reverse :: linesFrom keep [] rest
    else linesFrom keep (c :: line) rest

theorem cutAt?_eq_some {sep s before after : List Char} (h : cutAt? sep s = some (before, after)) :
    s = before ++ sep ++ after := by
  induction s generalizing before with
  | nil =>
    simp only [cutAt?] at h
    split at h
    · rename_i he
      simp only [List.isEmpty_iff] at he
      simp_all
    · contradiction
  | cons c cs ih =>
    simp only [cutAt?] at h
    split at h
    · rename_i hp
      obtain ⟨t, ht⟩ := List.isPrefixOf_iff_prefix.mp hp
      simp only [Option.some.injEq, Prod.mk.injEq] at h
      obtain ⟨rfl, rfl⟩ := h
      simp [← ht]
    · simp only [Option.map_eq_some_iff, Prod.mk.injEq, Prod.exists] at h
      obtain ⟨b, a, hb, rfl, rfl⟩ := h
      simp [ih hb]

end Stencil.Text
