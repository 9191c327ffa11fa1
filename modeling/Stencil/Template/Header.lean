import Stencil.Text.Blank

/-!
# Headers

The line after an opening marker: its first word chooses the directive, the rest is the argument. The
argument of a transform names a variable and, after a colon, an expression.
-/
namespace Stencil.Template.Header

/-- The first word and the trimmed rest. A header that begins with a blank is a word of its own. -/
def split (header : String) : String × String :=
  match Text.spanWord header.toList with
  | ([], _) => (header, "")
  | (word, rest) => (String.ofList word, String.ofList (Text.trim rest))

inductive Keyword where
  | guard
  | choice
  | separator
  | inclusion
  | transform
  deriving DecidableEq, Repr

def Keyword.word : Keyword → String
  | guard => "if"
  | choice => "ifelse"
  | separator => "else"
  | inclusion => "include"
  | transform => "transform"

def keyword? (word : String) : Option Keyword :=
  [Keyword.guard, .choice, .separator, .inclusion, .transform].find? (·.word == word)

def keywordOf? (header : String) : Option Keyword := keyword? (split header).1

def isNameStart (c : Char) : Bool := c.isAlpha || c == '_'

def isNameChar (c : Char) : Bool := c.isAlphanum || c == '_'

/-- `name : expression`, where the name is an ASCII identifier and the expression is not blank. -/
def splitTransform (argument : String) : Option (String × String) :=
  let cs := argument.toList
  let name := cs.takeWhile isNameChar
  match name, Text.trimStart (cs.dropWhile isNameChar) with
  | c :: _, ':' :: rest =>
    let expression := Text.trim rest
    if isNameStart c && !expression.isEmpty then some (String.ofList name, String.ofList expression)
    else none
  | _, _ => none

end Stencil.Template.Header
