import Stencil.Text.Printable

/-!
# Quoted texts

A text between quotes, on one line and in printable characters. Apostrophes enclose it, or double quotes
where that saves escaping. Messages and listings show texts in this form. What has parts is shown in brackets
or in braces.
-/
namespace Stencil.Text

/-- The last `width` hexadecimal digits of a number, lower case. -/
def hexDigits : Nat → Nat → List Char
  | 0, _ => []
  | width + 1, n => hexDigits width (n / 16) ++ [Nat.digitChar (n % 16)]

/-- How a character stands inside quotes `q`. -/
def escapeChar (q c : Char) : List Char :=
  if c = q || c = '\\' then ['\\', c]
  else if c = '\n' then ['\\', 'n']
  else if c = '\r' then ['\\', 'r']
  else if c = '\t' then ['\\', 't']
  else if isPrintable c then [c]
  else if c.toNat < 0x100 then '\\' :: 'x' :: hexDigits 2 c.toNat
  else if c.toNat < 0x10000 then '\\' :: 'u' :: hexDigits 4 c.toNat
  else '\\' :: 'U' :: hexDigits 8 c.toNat

/-- Double quotes if the text holds an apostrophe and no double quote, else apostrophes. -/
def quoteFor (cs : List Char) : Char :=
  if cs.contains '\'' && !cs.contains '"' then '"' else '\''

def quoteChars (cs : List Char) : List Char :=
  let q := quoteFor cs
  q :: cs.flatMap (escapeChar q) ++ [q]

def quote (s : String) : String := String.ofList (quoteChars s.toList)

def braced (s : String) : String := String.singleton '{' ++ s ++ String.singleton '}'

end Stencil.Text
