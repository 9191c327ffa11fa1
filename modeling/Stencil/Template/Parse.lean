import Stencil.Template.Block
import Stencil.Template.Header
import Stencil.Template.Token

/-!
# From tokens to blocks

The tokens of a template are read from left to right with a stack of the directives that are still open,
so the depth of nesting is bounded by a limit and by nothing else. A text is refused as a whole: the first
flaw is reported and no block is kept. A header is judged when its directive closes.
-/
namespace Stencil.Template

open Header (Keyword)

/-- Why reading stops: a flaw at a token, or a directive that opens below too many others. -/
inductive Refusal where
  | flawed (flaw : Flaw) (token : Token)
  | tooDeep (token : Token)
  deriving DecidableEq, Repr

/-- A piece of a directive's body. Separators stand for `else` and never become blocks. -/
inductive Item where
  | block (b : Block)
  | separator (token : Token)

/-- A directive without its closing marker so far; the newest item comes first. -/
structure OpenDirective where
  token : Token
  items : List Item

/-- What has been read: the top level and the open directives, innermost first. -/
structure Progress where
  root : List Item
  stack : List OpenDirective

namespace Progress

def start : Progress := ⟨[], []⟩

/-- Adds an item to the innermost open directive, or to the top level. -/
def add (p : Progress) (item : Item) : Progress :=
  match p.stack with
  | [] => { p with root := item :: p.root }
  | f :: fs => { p with stack := { f with items := item :: f.items } :: fs }

end Progress

/-- The blocks of a body that has no separator left. -/
def plainBlocks : List Item → Except Refusal (List Block)
  | [] => .ok []
  | .block b :: items => do
    let bs ← plainBlocks items
    return b :: bs
  | .separator t :: _ => .error (.flawed .strayElse t)

/-- The items before the first separator and those behind it. -/
def splitAtSeparator : List Item → Option (List Item × List Item)
  | [] => none
  | .separator _ :: items => some ([], items)
  | .block b :: items => (splitAtSeparator items).map fun (l, r) => (.block b :: l, r)

def firstSeparator? : List Item → Option Token
  | [] => none
  | .separator t :: _ => some t
  | .block _ :: items => firstSeparator? items

def requireArgument (keyword : Keyword) (argument : String) (t : Token) : Except Refusal Unit :=
  if argument = "" then .error (.flawed (.missingArgument keyword.word) t) else .ok ()

/-- The block, or the separator, that a directive with header token `t` and body `items` is, given
whether it lies directly inside a choice. -/
def close (t : Token) (items : List Item) (insideChoice : Bool) : Except Refusal Item :=
  let (word, argument) := Header.split t.value
  match Header.keyword? word with
  | some .separator =>
    if !insideChoice then .error (.flawed .elseOutside t)
    else if argument ≠ "" then .error (.flawed .elseArgument t)
    else if !items.isEmpty then .error (.flawed .elseBody t)
    else .ok (.separator t)
  | some .choice => do
    requireArgument .choice argument t
    match splitAtSeparator items with
    | none => .error (.flawed .missingElse t)
    | some (first, second) =>
      match firstSeparator? second with
      | some extra => .error (.flawed .repeatedElse extra)
      | none =>
        let otherwise ← plainBlocks second
        let children ← plainBlocks first
        return .block (.choice argument children otherwise)
  | some .guard => do
    requireArgument .guard argument t
    let children ← plainBlocks items
    return .block (.directive (.guard argument) children)
  | some .inclusion => do
    requireArgument .inclusion argument t
    if !items.isEmpty then .error (.flawed .includeBody t)
    else return .block (.directive (.inclusion argument) [])
  | some .transform => do
    requireArgument .transform argument t
    match Header.splitTransform argument with
    | none => .error (.flawed .badTransform t)
    | some (name, expression) =>
      let children ← plainBlocks items
      return .block (.directive (.transform name expression) children)
  | none => do
    let children ← plainBlocks items
    return .block (.directive (.group t.value) children)

/-- Is the innermost open directive a choice? -/
def insideChoice : List OpenDirective → Bool
  | [] => false
  | f :: _ => Header.keywordOf? f.token.value == some .choice

/-- Reads one token. -/
def read (limit : Nat) (p : Progress) (t : Token) : Except Refusal Progress :=
  match t.kind with
  | .text =>
    let content := Text.strip t.value
    .ok (if content = "" then p else p.add (.block (.text content)))
  | .opening =>
    if p.stack.length ≥ limit then .error (.tooDeep t)
    else if t.value = "" then .error (.flawed .emptyHeader t)
    else .ok { p with stack := ⟨t, []⟩ :: p.stack }
  | .closing =>
    match p.stack with
    | [] => .error (.flawed .unmatchedClosing t)
    | f :: fs => do
      let item ← close f.token f.items.reverse (insideChoice fs)
      return Progress.add { p with stack := fs } item
  | .finish =>
    match p.stack with
    | [] => .ok p
    | f :: _ => .error (.flawed (.unclosed f.token.value) f.token)

/-- The blocks that a sequence of tokens spells. -/
def ofTokens (limit : Nat) (tokens : List Token) : Except Refusal (List Block) := do
  let p ← tokens.foldlM (read limit) Progress.start
  plainBlocks p.root.reverse

/-- A refusal as an error about `text`. -/
def Refusal.toError (limit : Nat) (text : String) : Refusal → Error
  | flawed flaw t =>
    .malformed ⟨flaw, t.place.line, t.place.column,
      String.ofList (text.toList.drop t.place.offset)⟩
  | tooDeep t => .tooDeep limit s!"parsing line {t.place.line}"

/-- The blocks of a template text, where directives nest at most `limit` deep. -/
def parseWithin (limit : Nat) (text : String) : Except Error (List Block) :=
  match Token.scan text with
  | .error m => .error (.malformed m)
  | .ok tokens => (ofTokens limit tokens).mapError (Refusal.toError limit text)

/-- The depth that a limit allows; a limit below one is an error. -/
def checkLimit (limit : Int) : Except Error Nat :=
  if limit < 1 then .error (.depthNotPositive limit) else .ok limit.toNat

def parse (limit : Int) (text : String) : Except Error (List Block) := do
  parseWithin (← checkLimit limit) text

/-- The limit where none is given. -/
def defaultLimit : Nat := 100

end Stencil.Template
