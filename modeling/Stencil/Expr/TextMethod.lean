import Stencil.Expr.Access
import Stencil.Expr.Arguments
import Stencil.Expr.Number
import Stencil.Text.Case
import Stencil.Text.Letters
import Stencil.Text.Markup
import Stencil.Text.Printable

/-!
# Methods of text

What the methods of text and of markup do. Places and lengths count characters. A method that markup has
of its own gives markup back, and escapes the text that it is given to put in.
-/
namespace Stencil.Expr

namespace TextMethod

open Text (trim trimStart trimEnd)

def shape? : String → Option Shape
  | "strip" | "lstrip" | "rstrip" => some (.between 0 1)
  | "split" | "rsplit" => some (.keyed ["sep", "maxsplit"])
  | "splitlines" => some (.keyed ["keepends"])
  | "expandtabs" => some (.keyed ["tabsize"])
  | "startswith" | "endswith" | "find" | "rfind" | "index" | "rindex" | "count" =>
    some (.searching 1 3)
  | "replace" => some (.between 2 3)
  | "center" | "ljust" | "rjust" => some (.between 1 2)
  | "join" | "zfill" | "partition" | "rpartition" | "removeprefix" | "removesuffix" => some .one
  | "upper" | "lower" | "title" | "capitalize" | "swapcase" | "casefold" | "isalpha" | "isalnum"
  | "isascii" | "isdecimal" | "isdigit" | "isnumeric" | "isidentifier" | "islower" | "isupper"
  | "istitle" | "isprintable" | "isspace" => some .nothing
  | _ => none

/-- An argument that has to be text. -/
def textArgument (v : Value) : Result String :=
  match v.text? with
  | some s => .ok s
  | none => typeError s!"must be str, not {v.typeName}"

def given : Option Value → Option Value
  | some .none | none => none
  | v => v

/-! ### Cutting off the ends -/

def stripText (name : String) (chars : Option Value) (cs : List Char) : Result (List Char) := do
  let drops ← match given chars with
    | none => pure Text.isBlank
    | some v =>
      match v.text? with
      | some set => pure fun c => set.contains c
      | none => typeError s!"{name} arg must be None or str"
  let fromStart := fun (xs : List Char) => if name = "rstrip" then xs else xs.dropWhile drops
  let fromEnd := fun (xs : List Char) =>
    if name = "lstrip" then xs else (xs.reverse.dropWhile drops).reverse
  return fromEnd (fromStart cs)

/-! ### Searching in a part of the text -/

/-- An end of the part that is searched, counted from the back if negative. -/
def bound (size : Nat) (default : Int) (v : Option Value) : Result Int := do
  match given v with
  | none => return default
  | some v =>
    match ← Value.sliceEnd v with
    | none => return default
    | some n => return if n < 0 then max 0 (n + size) else n

/-- The part between two ends and where it begins; none if it ends before it begins. -/
def part (cs : List Char) (start stop : Option Value) : Result (Option (Nat × List Char)) := do
  let size := cs.length
  let i ← bound size 0 start
  let j := min (← bound size size stop) size
  if j < i then return none
  else return some (i.toNat, (cs.take j.toNat).drop i.toNat)

/-- The place of the first or of the last occurrence. -/
def search (last : Bool) (needle : List Char) (region : Option (Nat × List Char)) : Option Nat :=
  region.bind fun (offset, cs) =>
    ((if last then Text.lastIndexOf? else Text.indexOf?) needle cs).map (offset + ·)

/-- Does the part begin or end with the text? -/
def meets (atEnd : Bool) (piece : List Char) : Option (Nat × List Char) → Bool
  | none => false
  | some (_, cs) =>
    if atEnd then piece.reverse.isPrefixOf cs.reverse else piece.isPrefixOf cs

/-- `startswith` and `endswith`: one text, or one of several. -/
def meetsOne (name : String) (region : Option (Nat × List Char)) : List Value → Result Bool
  | [] => .ok false
  | v :: vs =>
    match v.text? with
    | none => typeError s!"tuple for {name} must only contain str, not {v.typeName}"
    | some s => if meets (name == "endswith") s.toList region then .ok true else meetsOne name region vs

def searching (name : String) (cs : List Char) (needle : Value) (start stop : Option Value) :
    Result Value := do
  let region ← part cs start stop
  match name with
  | "startswith" | "endswith" =>
    match needle, needle.text? with
    | .tuple vs, _ => return .bool (← meetsOne name region vs)
    | _, some s => return .bool (meets (name == "endswith") s.toList region)
    | v, none => typeError s!"{name} first arg must be str or a tuple of str, not {v.typeName}"
  | "count" =>
    let s ← textArgument needle
    return .int (match region with
      | some (_, cs) => Text.countOf s.toList cs
      | none => 0)
  | _ =>
    let s ← textArgument needle
    match search (name.startsWith "r") s.toList region with
    | some i => return .int i
    | none => if name.endsWith "find" then return .int (-1) else valueError "substring not found"

/-! ### Splitting -/

/-- How many cuts at most; a negative limit is none. -/
def limit (cs : List Char) (v : Option Value) : Result Nat := do
  match v with
  | none => return cs.length
  | some v =>
    let n ← v.toSize
    return if n < 0 then cs.length else min n.toNat cs.length

def splitText (fromEnd : Bool) (cs : List Char) (sep most : Option Value) :
    Result (List (List Char)) := do
  let n ← limit cs most
  match given sep with
  | none => return if fromEnd then Text.splitWordsAtEnd n cs else Text.splitWords n cs
  | some v =>
    match v.text? with
    | none => typeError s!"must be str or None, not {v.typeName}"
    | some s =>
      if s.isEmpty then valueError "empty separator"
      return if fromEnd then Text.splitAtEnd s.toList n cs else Text.splitAt s.toList n cs

/-- What is before the separator, the separator, and what is after it. -/
def partition (fromEnd : Bool) (cs : List Char) (sep : Value) : Result (List (List Char)) := do
  let s := (← textArgument sep).toList
  if s.isEmpty then valueError "empty separator"
  if fromEnd then
    match Text.cutAt? s.reverse cs.reverse with
    | some (after, before) => return [before.reverse, s, after.reverse]
    | none => return [[], [], cs]
  else
    match Text.cutAt? s cs with
    | some (before, after) => return [before, s, after]
    | none => return [cs, [], []]

/-- The parts as a tuple. Text keeps the separator as it was given. -/
def parted (wrap : List Char → Value) (isMarkup : Bool) (sep : Value) : List (List Char) → Value
  | [before, [], after] => .tuple [wrap before, wrap [], wrap after]
  | [before, s, after] => .tuple [wrap before, if isMarkup then wrap s else sep, wrap after]
  | parts => .tuple (parts.map wrap)

/-! ### Filling -/

def fillChar : Option Value → Result Char
  | none => .ok ' '
  | some v =>
    match v.text? with
    | none => typeError s!"The fill character must be a unicode character, not {v.typeName}"
    | some s =>
      match s.toList with
      | [c] => .ok c
      | _ => typeError "The fill character must be exactly one character long"

/-- Fills text up to a width. In the middle, an odd rest goes to the left if the width is odd. -/
def fillText (name : String) (cs : List Char) (width : Int) (c : Char) : List Char :=
  let n := width.toNat - cs.length
  let left := match name with
    | "ljust" => 0
    | "rjust" => n
    | _ => n / 2 + (if n % 2 = 1 && width % 2 = 1 then 1 else 0)
  List.replicate left c ++ cs ++ List.replicate (n - left) c

/-- Zeros between the sign and the rest. -/
def fillZeros (cs : List Char) (width : Int) : List Char :=
  let zeros := List.replicate (width.toNat - cs.length) '0'
  match cs with
  | c :: rest => if c = '+' || c = '-' then c :: zeros ++ rest else zeros ++ cs
  | [] => zeros

/-- Blanks up to the next multiple of `size` in place of tabulators. -/
def expandTabs (size column : Nat) : List Char → List Char
  | [] => []
  | '\t' :: rest =>
    let n := if size = 0 then 0 else size - column % size
    List.replicate n ' ' ++ expandTabs size (column + n) rest
  | c :: rest => c :: expandTabs size (if c = '\n' || c = '\r' then 0 else column + 1) rest

/-! ### Joining -/

/-- The texts of the items, all of which have to be text. -/
def itemTexts (i : Nat) : List Value → Result (List String)
  | [] => .ok []
  | v :: vs =>
    match v.text? with
    | none => typeError s!"sequence item {i}: expected str instance, {v.typeName} found"
    | some s => do return s :: (← itemTexts (i + 1) vs)

/-- The text as it may stand in markup. -/
def escaped (v : Value) : Result String :=
  match v with
  | .markup s => .ok s
  | v => do return Text.escapeMarkup (← v.toText)

def joinItems (isMarkup : Bool) (sep : String) (v : Value) : Result String := do
  match v.items with
  | .error (.raised ..) =>
    if isMarkup then typeError s!"'{v.typeName}' object is not iterable"
    else typeError "can only join an iterable"
  | .error f => .error f
  | .ok _ =>
    let items ← v.toList
    let texts ← if isMarkup then items.mapM escaped else itemTexts 0 items
    return String.intercalate sep texts

/-! ### Kinds of text -/

def isAlphanumeric (c : Char) : Bool :=
  Text.isLetter c || Text.isDecimal c || Text.isDigitLike c || Text.isNumeric c

def allOf (p : Char → Bool) (cs : List Char) : Bool := !cs.isEmpty && cs.all p

def test? (name s : String) : Option Bool :=
  let cs := s.toList
  match name with
  | "isalpha" => some (allOf Text.isLetter cs)
  | "isalnum" => some (allOf isAlphanumeric cs)
  | "isascii" => some (cs.all fun c => c.toNat < 0x80)
  | "isdecimal" => some (allOf Text.isDecimal cs)
  | "isdigit" => some (allOf Text.isDigitLike cs)
  | "isnumeric" => some (allOf Text.isNumeric cs)
  | "isidentifier" => some (Text.isName cs)
  | "islower" => some (Text.isLowerText s)
  | "isupper" => some (Text.isUpperText s)
  | "istitle" => some (Text.isTitleText s)
  | "isprintable" => some (cs.all Text.isPrintable)
  | "isspace" => some (allOf Text.isBlank cs)
  | _ => none

def changeCase? (name s : String) : Option String :=
  match name with
  | "upper" => some (Text.toUpper s)
  | "lower" => some (Text.toLower s)
  | "title" => some (Text.toTitle s)
  | "capitalize" => some (Text.capitalize s)
  | "swapcase" => some (Text.swapCase s)
  | "casefold" => some (Text.foldCase s)
  | _ => none

/-! ### Calling -/

/-- How markup takes the arguments of the methods that it has of its own, itself first. -/
def markupSignature? (name : String) : Option Signature :=
  let own (parameters : List Parameter) : Option Signature :=
    some ⟨"Markup." ++ name, [], (required "self").byPlace :: parameters⟩
  match name with
  | "upper" | "lower" | "title" | "capitalize" | "swapcase" | "casefold" | "striptags" | "unescape" =>
    own []
  | "strip" | "lstrip" | "rstrip" => own [(optional "chars" .none).byPlace]
  | "split" | "rsplit" => own [optional "sep" .none, optional "maxsplit" (.int (-1))]
  | "splitlines" => own [optional "keepends" (.bool false)]
  | "expandtabs" => own [optional "tabsize" (.int 8)]
  | "join" => own [(required "iterable").byPlace]
  | "replace" =>
    own [(required "old").byPlace, (required "new").byPlace, (optional "count" (.int (-1))).byPlace]
  | "center" | "ljust" | "rjust" =>
    own [(required "width").byPlace, (optional "fillchar" (.text " ")).byPlace]
  | "zfill" => own [(required "width").byPlace]
  | "partition" | "rpartition" => own [(required "sep").byPlace]
  | "removeprefix" => own [(required "prefix").byPlace]
  | "removesuffix" => own [(required "suffix").byPlace]
  | "escape" => some ⟨"Markup.escape", [], [(required "cls").byPlace, (required "s").byPlace]⟩
  | _ => none

/-- How a message names the type of an argument. -/
def argumentType : Value → String
  | .none => "None"
  | v => v.typeName

/-- A text argument of `replace`, with its number. -/
def replaceArgument (n : Nat) (v : Value) : Result String :=
  match v.text? with
  | some s => .ok s
  | none => typeError s!"replace() argument {n} must be str, not {argumentType v}"

def replaceText (isMarkup : Bool) (cs : List Char) (old new : Value) (count : Option Value) :
    Result (List Char) := do
  let new ← if isMarkup then pure (Value.markup (← escaped new)) else pure new
  let o ← replaceArgument 1 old
  let w ← replaceArgument 2 new
  let n ← match count with
    | none => pure (-1)
    | some v => v.toSize
  return Text.replaceFirst o.toList w.toList (if n < 0 then cs.length + 1 else n.toNat) cs

def affix (name : String) (v : Value) : Result (List Char) :=
  match v.text? with
  | some s => .ok s.toList
  | none => typeError s!"{name}() argument must be str, not {argumentType v}"

/-- Calls a method with its arguments at their places. -/
def apply (isMarkup : Bool) (s name : String) (args : List (Option Value)) : Result Value := do
  let cs := s.toList
  let wrap := fun (out : List Char) =>
    if isMarkup then Value.markup (String.ofList out) else .text (String.ofList out)
  match test? name s, changeCase? name s with
  | some b, _ => return .bool b
  | _, some out => return wrap out.toList
  | _, _ =>
    match name, args with
    | "strip", [chars] | "lstrip", [chars] | "rstrip", [chars] =>
      return wrap (← stripText name chars cs)
    | "split", [sep, most] => return .list ((← splitText false cs sep most).map wrap)
    | "rsplit", [sep, most] => return .list ((← splitText true cs sep most).map wrap)
    | "splitlines", [keep] =>
      let keep ← match keep with
        | none => pure 0
        | some v => v.toSmall
      return .list ((Text.linesFrom (keep != 0) [] cs).map wrap)
    | "expandtabs", [size] =>
      let size ← match size with
        | none => pure 8
        | some v => v.toSmall
      return wrap (expandTabs size.toNat 0 cs)
    | "replace", [some old, some new, count] => return wrap (← replaceText isMarkup cs old new count)
    | "escape", [some v] => return wrap (← escaped v).toList
    | "striptags", _ => return .text (Text.plainOfMarkup s)
    | "unescape", _ => return .text (Text.unescapeMarkup s)
    | "center", [some width, c] | "ljust", [some width, c] | "rjust", [some width, c] =>
      let c ← match isMarkup, c with
        | true, some v => do pure (some (.text (← escaped v)))
        | _, c => pure c
      let width ← width.toSize
      let c ← fillChar c
      return wrap (fillText name cs (← roomFor width) c)
    | "zfill", [some width] => return wrap (fillZeros cs (← roomFor (← width.toSize)))
    | "join", [some v] =>
      return wrap (← joinItems isMarkup s v).toList
    | "partition", [some sep] => return parted wrap isMarkup sep (← partition false cs sep)
    | "rpartition", [some sep] => return parted wrap isMarkup sep (← partition true cs sep)
    | "removeprefix", [some v] =>
      let p ← affix name v
      return wrap (if p.isPrefixOf cs then cs.drop p.length else cs)
    | "removesuffix", [some v] =>
      let p ← affix name v
      return wrap (if p.reverse.isPrefixOf cs.reverse then cs.take (cs.length - p.length) else cs)
    | _, [some needle, start, stop] => searching name cs needle start stop
    | _, _ => (wrap cs).noMethod name

end TextMethod

end Stencil.Expr
