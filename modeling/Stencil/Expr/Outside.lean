import Stencil.Text.Blank

/-!
# Text outside of expressions

What may be wrong with the text behind two closing braces. Comments in it and raw text are passed over, up
to the first character or tag that means something; then nothing is wrong any more.
-/
namespace Stencil.Expr.Outside

open Text (isBlank trimEnd)

inductive Tag where
  | print
  | statement
  | comment
  | raw
  deriving DecidableEq, Repr

/-- A tag, the text before it, whether the tag takes the blanks there away, and the rest. -/
structure Found where
  before : List Char
  strips : Bool
  tag : Tag
  rest : List Char

/-- The sign that may stand at the beginning of a tag: does it take blanks away? -/
def readSign : List Char → Bool × List Char
  | '-' :: rest => (true, rest)
  | '+' :: rest => (false, rest)
  | cs => (false, cs)

def skipBlanks (cs : List Char) : List Char := cs.dropWhile isBlank

/-- The end of a tag between percent signs, perhaps with a sign before it. -/
def closeTag? (plusAllowed : Bool) : List Char → Option (List Char)
  | '-' :: '%' :: '}' :: rest => some (skipBlanks rest)
  | '+' :: '%' :: '}' :: rest => if plusAllowed then some rest else none
  | '%' :: '}' :: rest => some rest
  | _ => none

/-- The rest of a tag that holds a single word, from its sign on. -/
def wordTag? (word : String) (plusAllowed : Bool) (cs : List Char) : Option (Bool × List Char) :=
  let (strips, cs) := readSign cs
  let cs := skipBlanks cs
  if word.toList.isPrefixOf cs then
    (closeTag? plusAllowed (skipBlanks (cs.drop word.length))).map fun rest => (strips, rest)
  else none

/-- The first tag, with `before` the text so far, last character first. -/
def firstTag? (before : List Char) : List Char → Option Found
  | [] => none
  | '{' :: cs =>
    match cs with
    | '%' :: cs =>
      match wordTag? "raw" false cs with
      | some (strips, rest) => some ⟨before.reverse, strips, .raw, rest⟩
      | none => some ⟨before.reverse, (readSign cs).1, .statement, (readSign cs).2⟩
    | '{' :: cs => some ⟨before.reverse, (readSign cs).1, .print, (readSign cs).2⟩
    | '#' :: cs => some ⟨before.reverse, (readSign cs).1, .comment, (readSign cs).2⟩
    | cs => firstTag? ('{' :: before) cs
  | c :: cs => firstTag? (c :: before) cs

/-- What is behind the end of a comment. -/
def afterComment? : List Char → Option (List Char)
  | [] => none
  | '-' :: '#' :: '}' :: rest => some (skipBlanks rest)
  | '#' :: '}' :: rest => some rest
  | _ :: rest => afterComment? rest

/-- Raw text up to its end, as if that were a tag. -/
def rawEnd? (before : List Char) : List Char → Option Found
  | [] => none
  | '{' :: '%' :: cs =>
    match wordTag? "endraw" true cs with
    | some (strips, rest) => some ⟨before.reverse, strips, .raw, rest⟩
    | none => rawEnd? ('%' :: '{' :: before) cs
  | c :: cs => rawEnd? (c :: before) cs

/-- Is there any text before the tag? -/
def Found.hasText (f : Found) : Bool := !(if f.strips then trimEnd f.before else f.before).isEmpty

/-- What is wrong with the text, if anything is. -/
def flaw? : Nat → List Char → Option String
  | 0, _ => none
  | fuel + 1, cs =>
    match firstTag? [] cs with
    | none => none
    | some f =>
      if f.hasText then none
      else
        match f.tag with
        | .print | .statement => none
        | .comment =>
          match afterComment? f.rest with
          | some rest => flaw? fuel rest
          | none => if f.rest.isEmpty then none else some "Missing end of comment tag"
        | .raw =>
          match rawEnd? [] f.rest with
          | some g => if g.hasText then none else flaw? fuel g.rest
          | none => if f.rest.isEmpty then none else some "Missing end of raw directive"

end Stencil.Expr.Outside
