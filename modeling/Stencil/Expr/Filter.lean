import Stencil.Expr.Key
import Stencil.Expr.Sort
import Stencil.Expr.Test
import Stencil.Expr.TextMethod

/-!
# Filters

What the filters of expressions do, by name. A filter takes the value before the bar and its arguments.
Filters that go through items give a stream: a failure at one item shows when the stream comes to it.
-/
namespace Stencil.Expr

namespace Filter

open Value (text markup list tuple dict int float bool absent stream)

/-! ### Text -/

def undefinedResult (message : String) : Value := absent ⟨message, true, false⟩

/-- Applies a change to the characters of a value as text; markup stays markup. -/
def onText (v : Value) (f : String → String) : Result Value := do
  match ← v.asText with
  | .markup s => return markup (f s)
  | w => return text (f (w.text?.getD ""))

/-- Does a word begin after the character? -/
def startsWord (c : Char) : Bool := Text.isBlank c || ['-', '(', '[', '<', '{'].contains c

def closeWord (word : List Char) : String :=
  match word.reverse with
  | [] => ""
  | c :: cs => String.ofList (Text.upperOf c) ++ Text.toLower (String.ofList cs)

/-- Each word with its first character in upper case and the rest in lower case. -/
def titleWords (word : List Char) : List Char → List String
  | [] => [closeWord word]
  | c :: cs =>
    if startsWord c then closeWord word :: c.toString :: titleWords [] cs
    else titleWords (c :: word) cs

def title (s : String) : String := String.join (titleWords [] s.toList)

/-- How many stretches of word characters there are. -/
def countWords (inside : Bool) : List Char → Nat
  | [] => 0
  | c :: cs =>
    let word := Text.isWordChar c
    (if word && !inside then 1 else 0) + countWords word cs

def replace (s : String) (old new count : Value) : Result Value := do
  let old ← old.toText
  let new ← new.toText
  let n ← match count with
    | .none => pure (-1)
    | v => v.toSize
  let limit := if n < 0 then s.length + 1 else n.toNat
  return text (String.ofList (Text.replaceFirst old.toList new.toList limit s.toList))

def slice (stop : Value) : Value := .slice .none stop .none

/-- Cuts a text that is longer than `length` and `leeway`, at a word unless words may be cut. -/
def truncate (s length killWords ending leeway : Value) : Result Value := do
  let leeway := match leeway with
    | .none => int 5
    | v => v
  let size := int (← ending.length)
  if !(← Value.ordered .ge length size) then
    let wanted ← size.toText
    let given ← length.toText
    .error (.raised .assertion s!"expected length >= {wanted}, got {given}")
  if !(← Value.ordered .ge leeway (int 0)) then
    let given ← leeway.toText
    .error (.raised .assertion s!"expected leeway >= 0, got {given}")
  if ← Value.ordered .le (int (← s.length)) (← Value.operate .add length leeway) then return s
  let head ← s.subscript (slice (← Value.operate .sub length size))
  if ← killWords.truth then Value.operate .add head ending
  else
    match head with
    | text cs | markup cs =>
      let cut := String.ofList ((Text.splitAtEnd [' '] 1 cs.toList).headD [])
      let cut := match head with
        | markup _ => markup cut
        | _ => text cut
      Value.operate .add cut ending
    | v => .error (.raised .attribute s!"'{v.typeName}' object has no attribute 'rsplit'")

/-- Joining in place, which differs from joining in what lists accept and in wording. -/
def extend (v : Value) (s : Value) : Result Value :=
  match v with
  | list _ => .error (.raised .attribute "'list' object has no attribute 'splitlines'")
  | tuple _ | text _ | markup _ | absent _ => Value.add v s
  | v => Value.unsupported "+=" v s

/-- Puts `width` blanks, or a given text, before the lines of a text; before the first one only if asked
for, and before empty ones likewise. -/
def indent (s width first blank : Value) : Result Value := do
  let unit ← match width.text? with
    | some t => pure (text t)
    | none => Value.mul (text " ") width
  let isMarkup := match s with
    | markup _ => true
    | _ => false
  let wrap := fun (v : Value) => if isMarkup then markup (v.text?.getD "") else v
  let unit := wrap unit
  let newline := wrap (text "\n")
  let whole ← extend s newline
  let lines := (Text.linesFrom false [] (whole.text?.getD "").toList).map String.ofList
  let join := fun (sep : Value) (pieces : List String) =>
    wrap (text (String.intercalate (sep.text?.getD "") pieces))
  let pad := unit.text?.getD ""
  let body ← if ← blank.truth then pure (join (← Value.add newline unit) lines)
    else
      let rest := lines.drop 1
      let rest := rest.map fun line => if line = "" then line else pad ++ line
      pure (join newline (lines.take 1 ++ rest))
  if ← first.truth then Value.add unit body else return body

/-! ### Numbers -/

/-- An integer written in a text, or none. Text with too many digits is none. -/
def readInt? (s : String) (base : Value) : Option Int := do
  let base ← base.int?
  if base = 0 || (2 ≤ base && base ≤ 36) then
    let (negative, base, ds) ← Decimal.integerDigits? base.toNat s
    if ds.length > digitLimit && !([2, 4, 8, 16, 32].contains base) then none
    else some (Decimal.signed negative (Decimal.ofDigits base ds))
  else none

/-- The integer that a value stands for or that a text holds in some base. -/
def makeInt (v base : Value) : Result Int :=
  match v.text? with
  | none => v.makeInt
  | some s =>
    match readInt? s base with
    | some n => .ok n
    | none => valueError "invalid literal"

/-- An integer, by way of a number with a point if need be, else the default. -/
def toInt (v default base : Value) : Result Value :=
  match makeInt v base with
  | .ok n => .ok (int n)
  | .error f =>
    if !f.isUnsuitable then .error f
    else
      match v.makeFloat >>= intOfFloat with
      | .ok n => .ok (int n)
      | .error (.raised .overflow _) => .ok default
      | .error f => if f.isUnsuitable then .ok default else .error f

def toFloat (v default : Value) : Result Value :=
  match v.makeFloat with
  | .ok x => .ok (float x)
  | .error f => if f.isUnsuitable then .ok default else .error f

def roundCommon (v precision : Value) : Result Value :=
  match v, v.int?, precision with
  | float x, _, .none => do return int (← roundFloat x)
  | float x, _, p => do return float (← roundFloatTo x (← p.toIndex))
  | _, some n, .none => .ok (int n)
  | _, some n, p => do
    let p ← p.toIndex
    return int (if p ≥ 0 then n else roundIntTo n (-p).toNat)
  | v, none, _ => typeError s!"type {v.typeName} doesn't define __round__ method"

/-- The next integer above, or below. -/
def roundOutward (up : Bool) (v : Value) : Result Value :=
  match v, v.int? with
  | _, some n => .ok (int n)
  | float x, _ => do return int (← intOfFloat (if up then x.ceil else x.floor))
  | absent a, _ => .error a.failure
  | v, _ => typeError s!"must be real number, not {v.typeName}"

def round (v precision method : Value) : Result Value := do
  method.checkKey
  match method.text? with
  | some "common" => roundCommon v precision
  | some "ceil" | some "floor" =>
    let scale ← Value.operate .pow (int 10) precision
    let scaled ← Value.operate .mul v scale
    Value.operate .div (← roundOutward (method.text? == some "ceil") scaled) scale
  | _ => .error (.raised .engine "method must be common, ceil or floor")

def magnitude (v : Value) : Result Value :=
  match v, v.int? with
  | float x, _ => .ok (float x.abs)
  | .complex re im, _ => .ok (float (Float.sqrt (re * re + im * im)))
  | _, some n => .ok (int n.natAbs)
  | v, none => typeError s!"bad operand type for abs(): '{v.typeName}'"

/-! ### Sequences -/

def first (v : Value) : Result Value := do
  match ← v.items with
  | (x :: _, _) => return x
  | ([], some f) => .error f
  | ([], none) => return undefinedResult "No first item, sequence was empty."

/-- The items from the last to the first, and the kind of stream that gives them. -/
def reversed? (v : Value) : Option (String × List Value) :=
  match v with
  | text s => some ("reversed", s.toList.reverse.map fun c => text c.toString)
  | markup s => some ("reversed", s.toList.reverse.map fun c => markup c.toString)
  | list xs => some ("list_reverseiterator", xs.reverse)
  | tuple xs => some ("reversed", xs.reverse)
  | dict entries => some ("dict_reversekeyiterator", (entries.map (·.1)).reverse)
  | .view .keys entries => some ("dict_reversekeyiterator", (entries.map (·.1)).reverse)
  | .view .values entries => some ("dict_reversevalueiterator", (entries.map (·.2)).reverse)
  | .view .items entries => some ("dict_reverseitemiterator", (entries.map Value.ofEntry).reverse)
  | absent a => if a.strict then none else some ("reversed", [])
  | _ => none

def last (v : Value) : Result Value :=
  match v, reversed? v with
  | _, some (_, x :: _) => .ok x
  | _, some (_, []) => .ok (undefinedResult "No last item, sequence was empty.")
  | absent a, none => .error a.failure
  | v, none => typeError s!"'{v.typeName}' object is not reversible"

def reverse (v : Value) : Result Value :=
  match v, reversed? v with
  | text s, _ => .ok (text (String.ofList s.toList.reverse))
  | markup s, _ => .ok (markup (String.ofList s.toList.reverse))
  | _, some (type, xs) => .ok (stream type xs none)
  | absent a, none => .error a.failure
  | v, none =>
    match v.toList with
    | .ok xs => .ok (list xs.reverse)
    | .error (.raised .type _) => .error (.raised .engine "argument must be iterable")
    | .error f => .error f

/-- Goes through items until one fails; `f` gives what an item contributes, if anything. -/
def collect (f : Value → Result (Option Value)) (ending : Option Failure) :
    List Value → List Value × Option Failure
  | [] => ([], ending)
  | x :: xs =>
    match f x with
    | .error e => ([], some e)
    | .ok y =>
      let (ys, e) := collect f ending xs
      (y.toList ++ ys, e)

/-- The stream of what the items of a value contribute. -/
def streamOf (v : Value) (f : Value → Result (Option Value)) : Value :=
  match v.items with
  | .error e => stream "generator" [] (some e)
  | .ok (xs, ending) =>
    let (ys, e) := collect f ending xs
    stream "generator" ys e

/-- The items whose key none of the items before has. -/
def uniqueItems (rule : KeyRule) (ending : Option Failure) (seen : List Value) :
    List Value → List Value × Option Failure
  | [] => ([], ending)
  | x :: xs =>
    match (do
      let k ← rule.key x
      k.checkKey
      return k : Result Value) with
    | .error e => ([], some e)
    | .ok k =>
      if seen.any (Value.sameKey · k) then uniqueItems rule ending seen xs
      else
        let (ys, e) := uniqueItems rule ending (k :: seen) xs
        (x :: ys, e)

def unique (v caseCounts path : Value) : Value :=
  match v.items, KeyRule.of path caseCounts with
  | _, .error e | .error e, _ => stream "generator" [] (some e)
  | .ok (xs, ending), .ok rule =>
    let (ys, e) := uniqueItems rule ending [] xs
    stream "generator" ys e

def sort (v down caseCounts path : Value) : Result Value := do
  let rules ← KeyRule.list path caseCounts
  let items ← v.toList
  let down := (← down.toSmall) != 0
  let keyed ← items.mapM fun item => do
    return (⟨list (← rules.mapM (·.key item)), item⟩ : Keyed)
  let sorted ← if down then Keyed.sortDown keyed else Keyed.sort keyed
  return list (sorted.map (·.item))

/-- The item whose key comes first in the order. -/
def best (op : Order) (rule : KeyRule) (ending : Option Failure) (found : Keyed) :
    List Value → Result Value
  | [] =>
    match ending with
    | some e => .error e
    | none => .ok found.item
  | x :: xs => do
    let k ← rule.key x
    let better ← Value.ordered op k found.key
    best op rule ending (if better then ⟨k, x⟩ else found) xs

def extreme (op : Order) (v caseCounts path : Value) : Result Value := do
  match ← v.items with
  | ([], some e) => .error e
  | ([], none) => return undefinedResult "No aggregated item, sequence was empty."
  | (x :: xs, ending) =>
    let rule ← KeyRule.of path caseCounts
    best op rule ending ⟨← rule.key x, x⟩ xs

/-- The items, or the part of each that `path` leads to. -/
def parts (v path : Value) : Result (List Value × Option Failure) := do
  match path with
  | .none => v.items
  | path =>
    let steps ← Steps.ofValue path
    let (xs, ending) ← v.items
    return collect (fun x => do return some (← Steps.follow none steps x)) ending xs

def addAll (ending : Option Failure) (total : Value) : List Value → Result Value
  | [] =>
    match ending with
    | some e => .error e
    | none => .ok total
  | x :: xs => do addAll ending (← Value.operate .add total x) xs

def sum (v path start : Value) : Result Value := do
  let (xs, ending) ← parts v path
  if start.isText then typeError "sum() can't sum strings [use ''.join(seq) instead]"
  addAll ending start xs

def textsOf (ending : Option Failure) : List Value → Result (List String)
  | [] =>
    match ending with
    | some e => .error e
    | none => .ok []
  | x :: xs => do
    let s ← x.toText
    return s :: (← textsOf ending xs)

/-- The texts of all items with a separator between them. Only a part of each item is asked for before the
separator. -/
def join (v sep path : Value) : Result Value := do
  let found := parts v path
  match path, found with
  | .none, _ | _, .ok _ =>
    let sep ← sep.toText
    let (xs, ending) ← found
    return text (String.intercalate sep (← textsOf ending xs))
  | _, .error f => .error f

/-! ### Filters by name -/

def environment : List String := ["environment"]

def interface? : String → Option Interface
  | "abs" => some (.single "abs")
  | "length" | "count" => some (.single "len")
  | "upper" => some (signature "do_upper" [] [required "s"])
  | "lower" => some (signature "do_lower" [] [required "s"])
  | "capitalize" => some (signature "do_capitalize" [] [required "s"])
  | "title" => some (signature "do_title" [] [required "s"])
  | "trim" => some (signature "do_trim" [] [required "value", optional "chars" .none])
  | "replace" => some (signature "do_replace" ["eval_ctx"]
      [required "s", required "old", required "new", optional "count" .none])
  | "reverse" => some (signature "do_reverse" [] [required "value"])
  | "first" => some (signature "sync_do_first" environment [required "seq"])
  | "last" => some (signature "do_last" environment [required "seq"])
  | "join" => some (signature "sync_do_join" ["eval_ctx"]
      [required "value", optional "d" (text ""), optional "attribute" .none])
  | "default" | "d" => some (signature "do_default" []
      [required "value", optional "default_value" (text ""), optional "boolean" (bool false)])
  | "int" => some (signature "do_int" []
      [required "value", optional "default" (int 0), optional "base" (int 10)])
  | "float" => some (signature "do_float" [] [required "value", optional "default" (float 0)])
  | "round" => some (signature "do_round" []
      [required "value", optional "precision" (int 0), optional "method" (text "common")])
  | "string" => some (signature "soft_str" [] [required "s"])
  | "list" => some (signature "sync_do_list" [] [required "value"])
  | "sort" => some (signature "do_sort" environment
      [required "value", optional "reverse" (bool false), optional "case_sensitive" (bool false),
        optional "attribute" .none])
  | "unique" => some (signature "do_unique" environment
      [required "value", optional "case_sensitive" (bool false), optional "attribute" .none])
  | "min" => some (signature "do_min" environment
      [required "value", optional "case_sensitive" (bool false), optional "attribute" .none])
  | "max" => some (signature "do_max" environment
      [required "value", optional "case_sensitive" (bool false), optional "attribute" .none])
  | "sum" => some (signature "sync_do_sum" environment
      [required "iterable", optional "attribute" .none, optional "start" (int 0)])
  | "center" => some (signature "do_center" [] [required "value", optional "width" (int 80)])
  | "truncate" => some (signature "do_truncate" ["env"]
      [required "s", optional "length" (int 255), optional "killwords" (bool false),
        optional "end" (text "..."), optional "leeway" .none])
  | "indent" => some (signature "do_indent" []
      [required "s", optional "width" (int 4), optional "first" (bool false),
        optional "blank" (bool false)])
  | "wordcount" => some (signature "do_wordcount" [] [required "s"])
  | "escape" | "e" => some (signature "escape" [] [(required "s").byPlace])
  | "forceescape" => some (signature "do_forceescape" [] [required "value"])
  | "safe" => some (signature "do_mark_safe" [] [required "value"])
  | "striptags" => some (signature "do_striptags" [] [required "value"])
  | "items" => some (signature "do_items" [] [required "value"])
  | _ => none

def center (v width : Value) : Result Value := do
  let w ← v.asText
  let width ← roomFor (← width.toSize)
  onText w fun s => String.ofList (TextMethod.fillText "center" s.toList width ' ')

def trim (v chars : Value) : Result Value := do
  let w ← v.asText
  let cs ← TextMethod.stripText "strip" (some chars) (w.text?.getD "").toList
  onText w fun _ => String.ofList cs

def items (v : Value) : Value :=
  match v with
  | absent _ => stream "generator" [] none
  | dict entries => stream "generator" (entries.map Value.ofEntry) none
  | _ => stream "generator" [] (some (.raised .type "Can only get item pairs from a mapping."))

/-- Nothing has the name that was asked for. -/
def unknownName {α : Type} (kind shown : String) : Result α :=
  .error (.raised .engine s!"No {kind} named {shown}.")

/-- A filter whose arguments are at their places. -/
def run (name : String) (args : List Value) : Result Value :=
  match name, args with
  | "abs", [v] => magnitude v
  | "length", [v] | "count", [v] => do return int (← v.length)
  | "upper", [v] => onText v Text.toUpper
  | "lower", [v] => onText v Text.toLower
  | "capitalize", [v] => onText v Text.capitalize
  | "title", [v] => do return text (title ((← v.asText).text?.getD ""))
  | "trim", [v, chars] => trim v chars
  | "replace", [v, old, new, count] => do replace (← v.toText) old new count
  | "reverse", [v] => reverse v
  | "first", [v] => first v
  | "last", [v] => last v
  | "join", [v, sep, path] => join v sep path
  | "default", [v, other, falsy] | "d", [v, other, falsy] => do
    match v with
    | absent _ => return other
    | v => if (← falsy.truth) && !(← v.truth) then return other else return v
  | "int", [v, default, base] => toInt v default base
  | "float", [v, default] => toFloat v default
  | "round", [v, precision, method] => round v precision method
  | "string", [v] => v.asText
  | "list", [v] => do return list (← v.toList)
  | "sort", [v, down, caseCounts, path] => sort v down caseCounts path
  | "unique", [v, caseCounts, path] => .ok (unique v caseCounts path)
  | "min", [v, caseCounts, path] => extreme .lt v caseCounts path
  | "max", [v, caseCounts, path] => extreme .gt v caseCounts path
  | "sum", [v, path, start] => sum v path start
  | "center", [v, width] => center v width
  | "truncate", [s, length, killWords, ending, leeway] => truncate s length killWords ending leeway
  | "indent", [s, width, first, blank] => indent s width first blank
  | "wordcount", [v] => do return int (countWords false ((← v.asText).text?.getD "").toList)
  | "escape", [v] | "e", [v] => do return markup (← TextMethod.escaped v)
  | "forceescape", [v] => do return markup (Text.escapeMarkup (← v.toText))
  | "safe", [v] => do return markup (← v.toText)
  | "striptags", [v] => do return text (Text.plainOfMarkup (← v.toText))
  | "items", [v] => .ok (items v)
  | name, _ => unknownName "filter" (Text.quote name)

/-! ### Filters that apply others -/

/-- `format`: fills a text by percent signs. -/
def format (v : Value) (args : Arguments) : Result Value := do
  if args.named.any (·.1 == "value") then
    typeError "do_format() got multiple values for argument 'value'"
  if !args.positional.isEmpty && !args.named.isEmpty then
    .error (.raised .engine "can't handle positional and keyword arguments at the same time")
  let supply := if args.named.isEmpty then tuple args.positional
    else dict (args.named.map fun (key, v) => (text key, v))
  Value.operate .mod (← v.asText) supply

/-- The name of the test or filter that an argument names. -/
def nameOf (kind : String) (v : Value) (known : String → Bool) : Result String := do
  v.checkKey
  match v.text?.filter known with
  | some s => return s
  | none => unknownName kind (← v.literal)

def askNamed (name item : Value) (args : Arguments) : Result Bool := do
  let test ← nameOf "test" name fun s => (Test.interface? s).isSome
  match Test.interface? test with
  | some i => Test.ask test i ⟨item :: args.positional, args.named⟩
  | none => return false

/-- Whether an item is selected: a test of it, or of a part of it, or its truth. -/
def selector (byPart : Bool) (args : Arguments) : Result (Value → Result Bool) := do
  let (steps, rest) ← match byPart, args.positional with
    | false, rest => pure ([], rest)
    | true, path :: rest => pure (← Steps.ofValue path, rest)
    | true, [] => .error (.raised .engine "Missing parameter for attribute name")
  match rest with
  | [] => return fun item => do (← Steps.follow none steps item).truth
  | name :: rest =>
    return fun item => do askNamed name (← Steps.follow none steps item) ⟨rest, args.named⟩

/-- A stream that begins to work when it is read, and that is empty if the value is false. -/
def whenRead (v : Value) (f : Result (Value → Result (Option Value))) : Value :=
  match v.truth with
  | .error e => stream "generator" [] (some e)
  | .ok false => stream "generator" [] none
  | .ok true =>
    match f with
    | .error e => stream "generator" [] (some e)
    | .ok f => streamOf v f

def select (keep byPart : Bool) (v : Value) (args : Arguments) : Value :=
  whenRead v do
    let selected ← selector byPart args
    return fun item => do return if (← selected item) == keep then some item else none

/-- The part of each item that `map` asks for. -/
def partMapper (args : Arguments) : Result (Value → Result Value) := do
  let default := match args.named.lookup "default" with
    | some .none | none => none
    | some v => some v
  match args.named.find? fun p => p.1 != "attribute" && p.1 != "default" with
  | some (key, _) => .error (.raised .engine s!"Unexpected keyword argument {Text.quote key}")
  | none =>
    let steps ← Steps.ofValue ((args.named.lookup "attribute").getD .none)
    return Steps.follow default steps

def isPerItem (name : String) : Bool :=
  ["map", "select", "reject", "selectattr", "rejectattr"].contains name

/-- The argument by name that the engine or the value takes up already. -/
def clash? (args : Arguments) : Option String :=
  (args.named.find? fun p => p.1 == "context" || p.1 == "value").map (·.1)

/-- Applies a known filter. `depth` bounds how often a filter may apply another one that it is given by
name; each time takes one argument away. -/
def applyKnown : Nat → String → Value → Arguments → Result Value
  | depth, name, v, args =>
    if name == "format" then format v args
    else if isPerItem name then
      match clash? args with
      | some key => typeError s!"sync_do_{name}() got multiple values for argument '{key}'"
      | none =>
        match name with
        | "select" => .ok (select true false v args)
        | "reject" => .ok (select false false v args)
        | "selectattr" => .ok (select true true v args)
        | "rejectattr" => .ok (select false true v args)
        | _ =>
          .ok (whenRead v
            (match depth, args.positional with
            | _, [] =>
              if args.named.any (·.1 == "attribute") then do
                let f ← partMapper args
                return fun item => do return some (← f item)
              else .error (.raised .engine "map requires a filter argument")
            | 0, _ :: _ => .error (.raised .engine "map requires a filter argument")
            | depth + 1, inner :: rest =>
              .ok fun item => do
                let inner ← nameOf "filter" inner filterNames.contains
                return some (← applyKnown depth inner item ⟨rest, args.named⟩)))
    else
      match interface? name with
      | some i => do run name (← i.bind ⟨v :: args.positional, args.named⟩)
      | none => unknownName "filter" (Text.quote name)

def apply (name : String) (v : Value) (args : Arguments) : Result Value :=
  applyKnown args.positional.length name v args

end Filter

end Stencil.Expr
