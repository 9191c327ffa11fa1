import Stencil.Decimal.Read
import Stencil.Text.CharacterName

/-!
# Markup

Escaping text so that it stands for itself in a page, resolving references to characters, and the plain
text of a page.
-/
namespace Stencil.Text

/-- How a character is written in a page. -/
def escapeMarkupChar (c : Char) : List Char :=
  if c = '&' then "&amp;".toList
  else if c = '<' then "&lt;".toList
  else if c = '>' then "&gt;".toList
  else if c = '\'' then "&#39;".toList
  else if c = '"' then "&#34;".toList
  else [c]

def escapeMarkup (s : String) : String := String.ofList (s.toList.flatMap escapeMarkupChar)

/-! ### References to characters -/

/-- What the codes from 0x80 to 0x9F stand for; five of them stand for themselves. -/
def oldCodes : List Nat :=
  [0x20AC, 0x81, 0x201A, 0x192, 0x201E, 0x2026, 0x2020, 0x2021, 0x2C6, 0x2030, 0x160, 0x2039, 0x152, 0x8D,
    0x17D, 0x8F, 0x90, 0x2018, 0x2019, 0x201C, 0x201D, 0x2022, 0x2013, 0x2014, 0x2DC, 0x2122, 0x161, 0x203A,
    0x153, 0x9D, 0x17E, 0x178]

/-- Control characters and codes that are kept free of characters. -/
def isForbiddenCode (n : Nat) : Bool :=
  (1 ≤ n && n ≤ 8) || n == 0x0B || (0x0E ≤ n && n ≤ 0x1F) || n == 0x7F || (0xFDD0 ≤ n && n ≤ 0xFDEF)
    || 0xFFFE ≤ n % 0x10000

/-- What a code stands for: nothing if it is forbidden, the replacement character if there is no such
character. -/
def charactersOfCode (n : Nat) : List Char :=
  if 0x80 ≤ n && n ≤ 0x9F then [Char.ofNat (oldCodes.getD (n - 0x80) n)]
  else if n = 0 || (0xD800 ≤ n && n ≤ 0xDFFF) || n > 0x10FFFF then ['\uFFFD']
  else if isForbiddenCode n then []
  else [Char.ofNat n]

/-- Does a semicolon follow, and what is after it? -/
def closing : List Char → Bool × List Char
  | ';' :: rest => (true, rest)
  | cs => (false, cs)

/-- The code at the head of a text, after its number sign. -/
def readCode? (cs : List Char) : Option (Nat × List Char) :=
  let (base, cs) := match cs with
    | 'x' :: rest | 'X' :: rest => (16, rest)
    | cs => (10, cs)
  let isDigit := fun c => (Decimal.digitValue? base c).isSome
  let digits := cs.takeWhile isDigit
  if digits.isEmpty then none
  else some (Decimal.ofDigits base digits, (closing (cs.dropWhile isDigit)).2)

def isReferenceChar (c : Char) : Bool := !("\t\n\x0c <&#;".toList.contains c)

/-- The longest name that counts without a semicolon and that `name` begins with, from `size` characters
down to two, as what it stands for and the rest. -/
def openingName (name : List Char) : Nat → Option (List Char × List Char)
  | size + 2 =>
    match namedCharacters? false (String.ofList (name.take (size + 2))) with
    | some out => some (out, name.drop (size + 2))
    | none => openingName name (size + 1)
  | _ => none

/-- No name that is looked for is longer. -/
def nameLimit : Nat := 32

/-- What a reference stands for, and the rest. The text begins after the ampersand. -/
def readReference? (cs : List Char) : Option (List Char × List Char) :=
  match cs with
  | '#' :: rest => (readCode? rest).map fun (code, rest) => (charactersOfCode code, rest)
  | cs =>
    let name := (cs.take nameLimit).takeWhile isReferenceChar
    let rest := cs.drop name.length
    let (closed, after) := closing rest
    match namedCharacters? closed (String.ofList name) with
    | some out => some (out, after)
    | none =>
      let size := if closed then name.length else name.length - 1
      (openingName name size).map fun (out, tail) => (out, tail ++ rest)

/-- Puts characters in place of the references to them; what is no reference stays as it is. -/
def resolveReferences : Nat → List Char → List Char
  | 0, cs => cs
  | _, [] => []
  | fuel + 1, '&' :: cs =>
    match readReference? cs with
    | some (out, rest) => out ++ resolveReferences fuel rest
    | none => '&' :: resolveReferences fuel cs
  | fuel + 1, c :: cs => c :: resolveReferences fuel cs

def unescapeMarkup (s : String) : String := String.ofList (resolveReferences s.length s.toList)

/-! ### Plain text -/

/-- Cuts out every stretch from `start` to `stop`, until one has no end. -/
def cutOut (start stop : List Char) : Nat → List Char → List Char
  | 0, cs => cs
  | fuel + 1, cs =>
    match cutAt? start cs with
    | none => cs
    | some (before, _) =>
      match cutAt? stop (cs.drop before.length) with
      | none => cs
      | some (_, after) => cutOut start stop fuel (before ++ after)

/-- The text of a page without comments and tags, its words a single blank apart. -/
def withoutTags (s : String) : String :=
  let cs := cutOut "<!--".toList "-->".toList s.length s.toList
  let cs := cutOut ['<'] ['>'] cs.length cs
  String.ofList (joinWith [' '] (splitWords cs.length cs))

/-- The text that a page shows. -/
def plainOfMarkup (s : String) : String := unescapeMarkup (withoutTags s)

end Stencil.Text
