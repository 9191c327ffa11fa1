import Stencil.Text.CharClass
import Stencil.Text.NameForm
import Stencil.Text.StandardName.Table

/-!
# The standard names of characters

Every character has a name in capital letters, and some have aliases. A name is looked up without
regard to case, except where a rule makes it: the ideographs are named by their codes, and the composed
syllables by the sounds of their parts.
-/
namespace Stencil.Text.StandardName

/-! ### Names of the table -/

/-- Words as the table writes them. -/
abbrev Words := List String

def capitalText (s : String) : String := String.ofList (s.toList.map Char.toUpper)

/-- The digit of base 62. -/
def digit62 (n : Nat) : Char :=
  if n < 10 then Char.ofNat ('0'.toNat + n)
  else if n < 36 then Char.ofNat ('A'.toNat + (n - 10))
  else Char.ofNat ('a'.toNat + (n - 36))

/-- The place of a word in the list. -/
def placeOf? (word : String) : Nat → List String → Option Nat
  | _, [] => none
  | start, line :: lines =>
    let words := line.splitOn " "
    match words.idxOf? word with
    | some i => some (start + i)
    | none => placeOf? word (start + words.length) lines

/-- A word as the table writes it. -/
def written (word : String) : String :=
  match placeOf? word 0 wordLines with
  | some i => String.ofList [digit62 (i / 62), digit62 (i % 62)]
  | none => "." ++ word

/-- Is the character part of a word or of the place of one? -/
def isInner (c : Char) : Bool := c.isAlphanum || c == '_'

/-- The words at the head of a line, and the rest. -/
def readWords : Nat → List Char → Words × List Char
  | fuel + 1, '.' :: cs =>
    let word := (cs.takeWhile isInner).map fun c => if c = '_' then '-' else c
    let rest := match cs.drop word.length with
      | ' ' :: rest => rest
      | rest => rest
    let (words, rest) := readWords fuel rest
    (String.ofList ('.' :: word) :: words, rest)
  | fuel + 1, c :: d :: cs =>
    if isInner c then
      let (words, rest) := readWords fuel cs
      (String.ofList [c, d] :: words, rest)
    else ([], c :: d :: cs)
  | _, cs => ([], cs)

/-- The distance to the next code, and the rest. -/
def readGap : List Char → Nat × List Char
  | '~' :: cs => (CharClass.number (cs.takeWhile isInner), cs.dropWhile isInner)
  | cs => (1, cs)

/-- The marks for no shared first word, one, two and so on. -/
def firstMarks : List Char := ['!', '$', '%', '&', '(', ')', '*', '+', ',', ':', ';', '<']

/-- The marks for one shared last word, two and so on. -/
def lastMarks : List Char := ['=', '>', '?', '@', '[', ']', '^', '|']

/-- The number that a mark at the head stands for, and the rest. -/
def readMark (marks : List Char) : List Char → Option Nat × List Char
  | c :: cs =>
    match marks.idxOf? c with
    | some i => (some i, cs)
    | none => (none, c :: cs)
  | [] => (none, [])

/-- A walk through the table: the code behind the last one, its name, and the code that is looked for if
the walk has met it. -/
structure Walk where
  next : Nat
  name : Words
  found : Option Nat

/-- Walks through the entries of a line. -/
def Walk.along (wanted : Words) : Nat → Walk → List Char → Walk
  | 0, w, _ | _, w, [] => w
  | fuel + 1, w, cs =>
    let (gap, cs) := readGap cs
    let (first, cs) := readMark firstMarks cs
    let (last, cs) := readMark lastMarks cs
    let (words, cs) := readWords cs.length cs
    let kept := (last.map (· + 1)).getD 0
    let name := w.name.take (first.getD 0) ++ words ++ w.name.drop (w.name.length - kept)
    let found := if name == wanted then some (w.next + gap - 1) else w.found
    along wanted fuel ⟨w.next + gap, name, found⟩ cs

/-- The code of a name in lines of the table. -/
def codeIn? (wanted : Words) (lines : List String) : Option Nat :=
  (lines.foldl (fun (w : Walk) line => w.along wanted line.length line.toList) ⟨0, [], none⟩).found

/-- The code of a name or an alias, in capital letters. -/
def listed? (name : String) : Option Nat :=
  let wanted := (name.splitOn " ").map written
  codeIn? wanted nameLines <|> codeIn? wanted aliasLines

/-! ### Names that rules make -/

def isUpperHex (c : Char) : Bool := c.isDigit || ('A' ≤ c && c ≤ 'F')

def hexNumber (digits : List Char) : Nat :=
  digits.foldl (fun n c => n * 16 + CharClass.digit c.toLower) 0

/-- Stretches of codes, the first and the last one of each. -/
abbrev Stretches := List (Nat × Nat)

def Stretches.contains (s : Stretches) (n : Nat) : Bool :=
  s.any fun (first, last) => first ≤ n && n ≤ last

/-- The characters whose names end in their code. -/
def coded : List (String × Stretches) :=
  [("CJK COMPATIBILITY IDEOGRAPH-", [(0xF900, 0xFA6D), (0xFA70, 0xFAD9), (0x2F800, 0x2FA1D)]),
    ("KHITAN SMALL SCRIPT CHARACTER-", [(0x18B00, 0x18CD5)]),
    ("NUSHU CHARACTER-", [(0x1B170, 0x1B2FB)])]

/-- The code that ends a name. -/
def codeOf? (name : String) : Option Nat :=
  coded.findSome? fun (start, stretches) =>
    let digits := name.toList.drop start.length
    let n := hexNumber digits
    let isWritten := digits.all isUpperHex && digits.length ≤ 5 && digits.head? != some '0'
    if name.startsWith start && isWritten && stretches.contains n then some n else none

def ideographs : Stretches :=
  [(0x3400, 0x4DBF), (0x4E00, 0x9FFF), (0x20000, 0x2A6DF), (0x2A700, 0x2B738), (0x2B740, 0x2B81D),
    (0x2B820, 0x2CEA1), (0x2CEB0, 0x2EBE0), (0x30000, 0x3134A)]

/-- The ideograph with a code of four or five digits. -/
def ideograph? (digits : List Char) : Option Nat :=
  let n := hexNumber digits
  let isWritten := digits.all isUpperHex && (digits.length = 4 || digits.length = 5)
  if isWritten && ideographs.contains n then some n else none

/-- The sounds of the parts of a syllable. -/
def leads : List String :=
  ["G", "GG", "N", "D", "DD", "R", "M", "B", "BB", "S", "SS", "", "J", "JJ", "C", "K", "T", "P", "H"]

def vowels : List String :=
  ["A", "AE", "YA", "YAE", "EO", "E", "YEO", "YE", "O", "WA", "WAE", "OE", "YO", "U", "WEO", "WE", "WI",
    "YU", "EU", "YI", "I"]

def tails : List String :=
  ["", "G", "GG", "GS", "N", "NJ", "NH", "D", "L", "LG", "LM", "LB", "LS", "LT", "LP", "LH", "M", "B",
    "BS", "S", "SS", "NG", "J", "C", "K", "T", "P", "H"]

/-- The longest sound at the head, by its place, and the rest. -/
def readSound? (sounds : List String) (cs : List Char) : Option (Nat × List Char) :=
  let (best, _) := sounds.foldl
    (fun (best, i) sound =>
      let better := sound.toList.isPrefixOf cs
        && (best.map fun (_, size) => decide (size < sound.length)).getD true
      (if better then some (i, sound.length) else best, i + 1))
    ((none : Option (Nat × Nat)), 0)
  best.map fun (i, size) => (i, cs.drop size)

/-- The syllable with certain sounds. -/
def syllable? (cs : List Char) : Option Nat := do
  let (lead, cs) ← readSound? leads cs
  let (vowel, cs) ← readSound? vowels cs
  let (tail, cs) ← readSound? tails cs
  if cs.isEmpty then
    some (NameForm.syllableBase + (lead * NameForm.vowelCount + vowel) * NameForm.tailCount + tail)
  else none

def syllableStart : String := "HANGUL SYLLABLE "

def ideographStart : String := "CJK UNIFIED IDEOGRAPH-"

/-- The character with a name. -/
def find? (name : String) : Option Char :=
  let code :=
    if name.startsWith syllableStart then syllable? (name.toList.drop syllableStart.length)
    else if name.startsWith ideographStart then ideograph? (name.toList.drop ideographStart.length)
    else
      let name := capitalText name
      codeOf? name <|> listed? name
  code.map Char.ofNat

end Stencil.Text.StandardName
