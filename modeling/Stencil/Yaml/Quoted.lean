import Stencil.Decimal.Read
import Stencil.Yaml.Cursor

/-!
# Scalars in quotes

A text between apostrophes or double quotes, over several lines if need be. Line ends fold: one becomes a
space, and more become one less. Between double quotes a backslash escapes.
-/
namespace Stencil.Yaml.Cursor

def simpleEscape? : Char → Option Char
  | '0' => some '\x00'
  | 'a' => some '\x07'
  | 'b' => some '\x08'
  | 't' | '\t' => some '\t'
  | 'n' => some '\n'
  | 'v' => some '\x0b'
  | 'f' => some '\x0c'
  | 'r' => some '\r'
  | 'e' => some '\x1b'
  | ' ' => some ' '
  | '"' => some '"'
  | '/' => some '/'
  | '\\' => some '\\'
  | 'N' => some '\u0085'
  | '_' => some '\u00a0'
  | 'L' => some '\u2028'
  | 'P' => some '\u2029'
  | _ => none

/-- How many hexadecimal digits an escape has. -/
def codeLength? : Char → Option Nat
  | 'x' => some 2
  | 'u' => some 4
  | 'U' => some 8
  | _ => none

/-- The line ends and blanks at the head of lines, as the line ends they stand for. -/
def foldedBreaks : Nat → List Char → Cursor → Except Fault (List Char × Cursor)
  | 0, done, c => .ok (done.reverse, c)
  | fuel + 1, done, c =>
    if c.atCut then .error .trailingContent
    else
      let c := c.skip fun x => x = ' ' || x = '\t'
      match c.lineBreak? with
      | some (x, c) => foldedBreaks fuel (x :: done) c
      | none => .ok (done.reverse, c)

/-- What a line end and those after it stand for. -/
def folded (first : Char) (more : List Char) : List Char :=
  if first ≠ '\n' then first :: more else if more.isEmpty then [' '] else more

def escape (c : Cursor) : Except Fault (List Char × Cursor) :=
  let x := c.peek 0
  match simpleEscape? x, codeLength? x, c.lineBreak? with
  | some y, _, _ => .ok ([y], c.step)
  | _, some n, _ =>
    let c := c.step
    let ds := c.rest.take n
    if ds.length = n && ds.all fun d => (Decimal.digitValue? 16 d).isSome then
      let code := Decimal.ofDigits 16 ds
      if code.isValidChar then .ok ([Char.ofNat code], c.advance n) else .error .badEscape
    else .error .badEscape
  | _, _, some (_, c) => foldedBreaks (c.rest.length + 1) [] c
  | _, _, none => .error .badEscape

/-- Blanks between words: as they are, or folded if the line ends here. -/
def blanks (c : Cursor) : Except Fault (List Char × Cursor) := do
  let (taken, c) := c.span fun x => x = ' ' || x = '\t'
  match c.lineBreak? with
  | some (x, c) =>
    let (more, c) ← foldedBreaks (c.rest.length + 1) [] c
    return (folded x more, c)
  | none => if c.peek 0 = '\x00' then .error .unclosedQuote else return (taken, c)

/-- The text up to the closing quote, and the place behind that. -/
def quotedFrom (quote : Char) : Nat → List Char → Cursor → Except Fault (List Char × Cursor)
  | 0, _, _ => .error .unclosedQuote
  | fuel + 1, done, c => do
    let x := c.peek 0
    if x = quote then
      if quote = '\'' && c.peek 1 = '\'' then quotedFrom quote fuel ('\'' :: done) (c.advance 2)
      else return (done.reverse, c.step)
    else if x = '\\' && quote = '"' then
      let (cs, c) ← escape c.step
      quotedFrom quote fuel (cs.reverse ++ done) c
    else if x = ' ' || x = '\t' || isBreakOrEnd x then
      let (cs, c) ← blanks c
      quotedFrom quote fuel (cs.reverse ++ done) c
    else quotedFrom quote fuel (x :: done) c.step

/-- The quoted text that begins here. -/
def quoted (c : Cursor) : Except Fault (String × Cursor) := do
  let (cs, c) ← quotedFrom (c.peek 0) (c.rest.length + 1) [] c.step
  return (String.ofList cs, c)

end Stencil.Yaml.Cursor
