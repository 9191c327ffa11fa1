import Stencil.Decimal.Read
import Stencil.Expr.Failure
import Stencil.Expr.Outside
import Stencil.Text.Quoted
import Stencil.Text.StandardName

/-!
# Tokens of expressions

Names, numbers, quoted texts and operators. Reading stops at the first character that no token begins
with, and at a bracket that closes what was not opened. The parser learns of it when it has used all the
tokens before.
-/
namespace Stencil.Expr

inductive Token where
  | name (s : String)
  | text (s : String)
  | integer (n : Nat)
  | number (x : Float)
  | operator (s : String)
  /-- Two closing braces where none is open. -/
  | close

/-- How a message names a token. -/
def Token.describe : Token → String
  | name s => s
  | text _ => "string"
  | integer _ => "integer"
  | number _ => "float"
  | operator s => s
  | close => "end of print statement"

/-- A token and the line it stands on. -/
structure Lexeme where
  token : Token
  line : Nat

/-- The tokens of a text, and what is wrong after them if something is. -/
structure Lexed where
  lexemes : List Lexeme
  flaw : Option Refusal

namespace Token

/-! ### Quoted texts -/

/-- A character outside the common ones as an escape. -/
def escapeWide (c : Char) : List Char :=
  if c.toNat < 0x80 then [c]
  else if c.toNat < 0x100 then '\\' :: 'x' :: Text.hexDigits 2 c.toNat
  else if c.toNat < 0x10000 then '\\' :: 'u' :: Text.hexDigits 4 c.toNat
  else '\\' :: 'U' :: Text.hexDigits 8 c.toNat

/-- The character of a number; half of a pair of units has none. -/
def charOf (n : Nat) : Char := if n.isValidChar then Char.ofNat n else '\ufffd'

/-- `count` hexadecimal digits at the head. -/
def readHex? (count : Nat) (cs : List Char) : Option (Nat × List Char) :=
  let ds := cs.take count
  if ds.length = count && ds.all fun c => (Decimal.digitValue? 16 c).isSome then
    some (Decimal.ofDigits 16 ds, cs.drop count)
  else none

def simpleEscape? (c : Char) : Option Char :=
  match c with
  | '\\' => some '\\'
  | '\'' => some '\''
  | '"' => some '"'
  | 'a' => some (Char.ofNat 7)
  | 'b' => some (Char.ofNat 8)
  | 't' => some '\t'
  | 'n' => some '\n'
  | 'v' => some (Char.ofNat 11)
  | 'f' => some (Char.ofNat 12)
  | 'r' => some '\r'
  | _ => none

def isOctal (c : Char) : Bool := '0' ≤ c && c ≤ '7'

/-- The character that an escape stands for, if it stands for one, and the rest. `c` is what follows the
backslash. -/
def readEscape (c : Char) (rest : List Char) : Except String (List Char × List Char) :=
  match c, simpleEscape? c with
  | _, some d => .ok ([d], rest)
  | '\n', _ => .ok ([], rest)
  | 'x', _ =>
    match readHex? 2 rest with
    | some (n, rest) => .ok ([charOf n], rest)
    | none => .error "truncated \\xXX escape"
  | 'u', _ =>
    match readHex? 4 rest with
    | some (n, rest) => .ok ([charOf n], rest)
    | none => .error "truncated \\uXXXX escape"
  | 'U', _ =>
    match readHex? 8 rest with
    | some (n, rest) =>
      if n < 0x110000 then .ok ([charOf n], rest) else .error "illegal Unicode character"
    | none => .error "truncated \\UXXXXXXXX escape"
  | 'N', _ =>
    match rest with
    | '{' :: rest =>
      let name := rest.takeWhile (· ≠ '}')
      if name.isEmpty || name.length = rest.length then .error "malformed \\N character escape"
      else
        match Text.StandardName.find? (String.ofList name) with
        | some c => .ok ([c], rest.drop (name.length + 1))
        | none => .error "unknown Unicode character name"
    | _ => .error "malformed \\N character escape"
  | c, _ =>
    if isOctal c then
      let ds := (c :: rest.take 2).takeWhile isOctal
      .ok ([charOf (Decimal.ofDigits 8 ds)], rest.drop (ds.length - 1))
    else .ok (['\\', c], rest)

/-- What a quoted text stands for. -/
def unescape : Nat → List Char → Except String (List Char)
  | 0, _ | _, [] => .ok []
  | fuel + 1, '\\' :: c :: rest => do
    let (cs, rest) ← readEscape c rest
    return cs ++ (← unescape fuel rest)
  | fuel + 1, c :: rest => do return c :: (← unescape fuel rest)

/-- The content of a quoted text after its opening quote, and the rest. -/
def readQuoted? (q : Char) : List Char → Option (List Char × List Char)
  | [] => none
  | '\\' :: c :: rest => (readQuoted? q rest).map fun (cs, rest) => ('\\' :: c :: cs, rest)
  | c :: rest =>
    if c = q then some ([], rest) else (readQuoted? q rest).map fun (cs, rest) => (c :: cs, rest)

/-! ### Numbers -/

/-- The longest run of digits at the head in which single underscores stand between digits. `start` says
whether an underscore may come first. -/
def digitRun (p : Char → Bool) (start : Bool) : List Char → List Char
  | '_' :: c :: rest => if start && p c then '_' :: c :: digitRun p true rest else []
  | c :: rest => if p c then c :: digitRun p true rest else []
  | [] => []

/-- A point and digits. -/
def readFraction? (cs : List Char) : Option (List Char) :=
  match cs with
  | '.' :: rest =>
    let ds := digitRun Text.isDecimal false rest
    if ds.isEmpty then none else some ('.' :: ds)
  | _ => none

/-- `e`, a sign or none, and digits. -/
def readExponent? (cs : List Char) : Option (List Char) :=
  match cs with
  | e :: rest =>
    if e = 'e' || e = 'E' then
      let sign := match rest with
        | c :: _ => if c = '+' || c = '-' then [c] else []
        | [] => []
      let ds := digitRun Text.isDecimal false (rest.drop sign.length)
      if ds.isEmpty then none else some (e :: sign ++ ds)
    else none
  | [] => none

/-- A number with a point or an exponent. -/
def readNumber? (cs : List Char) : Option (List Char) :=
  let whole := digitRun Text.isDecimal false cs
  if whole.isEmpty then none
  else
    let rest := cs.drop whole.length
    match readFraction? rest with
    | some fraction =>
      some (whole ++ fraction ++ (readExponent? (rest.drop fraction.length)).getD [])
    | none => (readExponent? rest).map (whole ++ ·)

/-- Digits of a base after its mark. -/
def readBased? (mark : Char) (p : Char → Bool) (cs : List Char) : Option (List Char) :=
  match cs with
  | '0' :: c :: rest =>
    if c.toLower = mark then
      let ds := digitRun p true rest
      if ds.isEmpty then none else some ('0' :: c :: ds)
    else none
  | _ => none

def isHex (c : Char) : Bool := Text.isDecimal c || (Decimal.digitValue? 16 c).isSome

def readInteger? (cs : List Char) : Option (List Char) :=
  readBased? 'b' (fun c => c = '0' || c = '1') cs
    <|> readBased? 'o' isOctal cs
    <|> readBased? 'x' isHex cs
    <|> match cs with
      | c :: rest =>
        if '1' ≤ c && c ≤ '9' then some (c :: digitRun Text.isDecimal true rest)
        else if c = '0' then some (c :: digitRun (· == '0') true rest)
        else none
      | [] => none

def integerValue (cs : List Char) : Nat :=
  match Decimal.integerDigits? 0 (String.ofList cs) with
  | some (_, base, ds) => Decimal.ofDigits base ds
  | none => 0

def isCommonChar (c : Char) : Bool := c.toNat < 0x80

/-- Why a number has no value whose common digits come to an end before `c`. -/
def numberFault (c : Char) : List Char → String
  | [] =>
    let code := String.ofList (Text.hexDigits (if c.toNat < 0x10000 then 4 else 5) c.toNat)
    s!"invalid character '{c}' (U+{code.toUpper})"
  | digits =>
    if digits.head? = some '0' && digits.all Char.isDigit && digits.any (· != '0') then
      "leading zeros in decimal integer literals are not permitted; "
        ++ "use an 0o prefix for octal integers"
    else "invalid decimal literal"

/-- The value of a number with a point or an exponent, whose digits have to be the common ones. -/
def numberValue (cs : List Char) : Except Refusal Float :=
  match cs.dropWhile isCommonChar with
  | [] => .ok ((Decimal.readFloat? (String.ofList cs)).getD 0)
  | c :: _ =>
    let digits := (cs.takeWhile isCommonChar).filter (· != '_')
    .error (.badForm (numberFault c digits ++ " (<unknown>, line 1)"))

/-! ### All tokens -/

/-- The line ends as line feeds, and one of them at the end of the text dropped. -/
def unifyLines : List Char → List Char
  | [] => []
  | '\r' :: '\n' :: rest => '\n' :: unifyLines rest
  | '\r' :: rest => '\n' :: unifyLines rest
  | c :: rest => c :: unifyLines rest

def dropLastLineFeed (cs : List Char) : List Char :=
  if cs.getLast? = some '\n' then cs.dropLast else cs

def operators : List String :=
  ["//", "**", "==", "!=", ">=", "<=", "+", "-", "/", "*", "%", "~", "[", "]", "(", ")", "\x7b",
    "\x7d", ">", "<", "=", ".", ":", "|", ",", ";"]

def readOperator? (cs : List Char) : Option String :=
  operators.find? fun op => op.toList.isPrefixOf cs

def closerOf? (op : String) : Option String :=
  match op with
  | "(" => some ")"
  | "[" => some "]"
  | "\x7b" => some "\x7d"
  | _ => none

/-- What is open after an operator, the closers of it, or the message for one that closes amiss. -/
def balance (stack : List String) (op : String) : Except Refusal (List String) :=
  match closerOf? op with
  | some closer => .ok (closer :: stack)
  | none =>
    if op = ")" || op = "]" || op = "\x7d" then
      match stack with
      | [] => .error (.badSyntax s!"unexpected '{op}'")
      | expected :: stack =>
        if expected = op then .ok stack
        else .error (.badSyntax s!"unexpected '{op}', expected '{expected}'")
    else .ok stack

/-- One step of reading: what is read, how many characters it takes, and what is open then. -/
structure Read where
  token : Option Token
  size : Nat
  stack : List String

def isPrintEnd (stack : List String) (cs : List Char) : Option Nat :=
  if !stack.isEmpty then none
  else if ['-', '}', '}'].isPrefixOf cs then
    some (3 + ((cs.drop 3).takeWhile Text.isBlank).length)
  else if ['}', '}'].isPrefixOf cs then some 2
  else none

def readWord? (afterPoint : Bool) (cs : List Char) : Option (Except Refusal (Token × Nat)) :=
  match (if afterPoint then none else readNumber? cs), readInteger? cs with
  | some ds, _ => some ((numberValue ds).map fun x => (.number x, ds.length))
  | none, some ds => some (.ok (.integer (integerValue ds), ds.length))
  | none, none =>
    let word := cs.takeWhile Text.isWordPart
    if word.isEmpty then none
    else if Text.isName word then some (.ok (.name (String.ofList word), word.length))
    else some (.error (.badSyntax "Invalid character in identifier"))

def readText? (cs : List Char) : Option (Except Refusal (Token × Nat)) :=
  match cs with
  | q :: rest =>
    if q = '\'' || q = '"' then
      (readQuoted? q rest).map fun (content, _) => do
        let wide := content.flatMap escapeWide
        let s ← (unescape wide.length wide).mapError (.badSyntax ∘ .told)
        return (.text (String.ofList s), content.length + 2)
    else none
  | [] => none

/-- Reads at the head of `cs`, which follows the character `before` and stands at `place`. -/
def readOne (stack : List String) (before : Option Char) (place : Nat) (cs : List Char) :
    Except Refusal Read :=
  match isPrintEnd stack cs with
  | some n => .ok ⟨some .close, n, stack⟩
  | none =>
    let blanks := cs.takeWhile Text.isBlank
    if !blanks.isEmpty then .ok ⟨none, blanks.length, stack⟩
    else
      match readWord? (before == some '.') cs, readText? cs, readOperator? cs with
      | some r, _, _ | none, some r, _ => r.map fun (t, n) => ⟨some t, n, stack⟩
      | none, none, some op => do return ⟨some (.operator op), op.length, ← balance stack op⟩
      | none, none, none =>
        let shown := Text.quote (String.ofList (cs.take 1))
        .error (.badSyntax s!"unexpected char {shown} at {place}")

def countLines (cs : List Char) : Nat := cs.count '\n'

/-- Reads to the end of the text, or up to two closing braces where none is open. -/
def scanFrom (stack : List String) (before : Option Char) (place line : Nat) :
    Nat → List Char → Lexed
  | 0, _ | _, [] => ⟨[], none⟩
  | fuel + 1, c :: cs =>
    match readOne stack before place (c :: cs) with
    | .error refusal => ⟨[], some refusal⟩
    | .ok ⟨token, n, stack⟩ =>
      let used := (c :: cs).take n
      let rest := (c :: cs).drop n
      match token with
      | some .close => ⟨[⟨.close, line⟩], (Outside.flaw? rest.length rest).map (.badSyntax ∘ .told)⟩
      | token =>
        let after := scanFrom stack used.getLast? (place + n) (line + countLines used) fuel rest
        ⟨(token.map fun t => ⟨t, line⟩).toList ++ after.lexemes, after.flaw⟩

def scan (s : String) : Lexed :=
  let cs := dropLastLineFeed (unifyLines s.toList)
  scanFrom [] none 0 1 cs.length cs

end Token

end Stencil.Expr
