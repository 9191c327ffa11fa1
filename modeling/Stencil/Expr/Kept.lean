import Stencil.Expr.Apply

/-!
# What operations keep

The origin of what an operation gives. An operation that has nothing to change gives back what it was given,
not a copy of it; one that takes a part out of a collection gives that very part. All else is made anew. In all
functions here `v` is what the operation gives.
-/
namespace Stencil.Expr

namespace Origin

open Traced (looksLike originAmong originOfItems)

/-! ### Operators -/

def ofSign (v : Value) (operand : Traced) : Origin := originAmong v .made [operand]

/-- Does the text consist of one directive that shows plain text as it is? -/
def isSingleDirective (s : String) : Bool :=
  match Percent.pieces s.length s.length s.toList with
  | [.directive d] => !d.plus && !d.blank
  | _ => false

/-- Filling a text by percent signs. -/
def ofPercent (v : Value) (s argument : Traced) : Origin :=
  match s.value with
  | .text written =>
    let arguments := match argument.value with
      | .tuple _ => argument.items
      | .dict _ => argument.entries.map Prod.snd
      | _ => [argument]
    if !written.toList.contains '%' then originAmong v .common [s]
    else if isSingleDirective written then originAmong v .common arguments
    else .common
  | _ => .made

/-- The items of two collections one after the other, or those of one over and over again. -/
def ofSequences (v : Value) (a b : Traced) : Origin :=
  let items := a.items ++ b.items
  match v with
  | .list xs | .tuple xs =>
    if items.all fun t => t.origin.isPlain then .common
    else
      let rounds := if items.isEmpty then 0 else xs.length / items.length
      .ofParts ((List.replicate rounds (items.map (·.origin))).flatten)
  | _ => .made

/-- A binary operator. -/
def ofOperation (v : Value) (op : Operation) (a b : Traced) : Origin :=
  match op, v with
  | .add, .text _ | .mul, .text _ => originAmong v .common [a, b]
  | .add, .tuple _ | .mul, .tuple _ =>
    if looksLike a.value v then a.origin
    else if looksLike b.value v then b.origin
    else ofSequences v a b
  | .add, .list _ | .mul, .list _ => ofSequences v a b
  | .mod, .text _ => ofPercent v a b
  | _, _ => .made

/-! ### Parts -/

/-- What a value has of its own, which is the value itself for some numbers. A text that waits to be filled
holds the text as its part. -/
def ofOwn (v : Value) (owner : Traced) : Origin :=
  match v with
  | .formatter .. => .parts [owner.origin]
  | v => originAmong v .common [owner]

/-- The entry of a key in a mapping. -/
def entryOf? (key : Value) (t : Traced) : Option Origin :=
  (t.entries.find? fun entry => Value.sameKey entry.1.value key).map fun entry => entry.2.origin

/-- The part that a key refers to. -/
def ofItem (v : Value) (owner : Traced) (key : Value) : Origin :=
  match owner.value, key with
  | .text _, .slice _ _ step =>
    match Value.sliceEnd step with
    | .ok (some n) => if n = 1 then originAmong v .common [owner] else .made
    | _ => originAmong v .common [owner]
  | .tuple _, .slice start stop step | .list _, .slice start stop step =>
    match v, Value.pick owner.items start stop step with
    | .tuple _, .ok items =>
      if owner.origin matches .constant && looksLike owner.value v then .constant
      else .ofParts (items.map (·.origin))
    | _, .ok items => .ofParts (items.map (·.origin))
    | _, _ => .made
  | .list xs, key | .tuple xs, key =>
    match (key.int?.bind (Value.place? · xs.length)).bind (owner.items[·]?) with
    | some t => t.origin
    | none => ofOwn v owner
  | .dict _, key => (entryOf? key owner).getD (ofOwn v owner)
  | _, _ => ofOwn v owner

/-- The attribute of a value, or its entry of that name. -/
def ofAttribute (v : Value) (owner : Traced) (name : String) : Origin :=
  match owner.value, v with
  | .dict _, .method _ _ .common => .made
  | .dict _, _ => (entryOf? (.text name) owner).getD .made
  | _, v => ofOwn v owner

/-- All parts of a value, and their parts in turn, `depth` levels deep. -/
def innerParts : Nat → Traced → List Traced
  | 0, t => [t]
  | depth + 1, t =>
    let inner := match t.value with
      | .dict _ => t.entries.map Prod.snd
      | .list _ | .tuple _ => t.items
      | _ => []
    t :: inner.flatMap (innerParts depth)

/-! ### Methods -/

/-- The pieces of a text that was cut. -/
def ofPieces (v : Value) (owner : Traced) : Origin :=
  match v with
  | .list [piece] => .ofParts [originAmong piece .common [owner]]
  | _ => .common

/-- Are two values alike and not the same? -/
def isCopy (a b : Traced) : Bool := looksLike a.value b.value && !a.same b

/-- A method of a text. -/
def ofTextMethod (v : Value) (name : String) (owner : Traced) (arguments : List Traced) : Origin :=
  match name, arguments with
  | "strip", _ | "lstrip", _ | "rstrip", _ | "removeprefix", _ | "removesuffix", _
  | "expandtabs", _ => originAmong v .common [owner]
  | "center", _ | "ljust", _ | "rjust", _ | "zfill", _ => originAmong v .made [owner]
  | "replace", old :: new :: _ =>
    let found := Value.contains old.value owner.value
    if isCopy old new && found matches .ok true then .made else originAmong v .made [owner]
  | "join", [t] =>
    match t.items with
    | [item] => item.origin
    | _ => .made
  | "split", [sep, ⟨.int 0, _⟩] | "rsplit", [sep, ⟨.int 0, _⟩] =>
    if sep.value matches .none then .common else ofPieces v owner
  | "split", _ | "rsplit", _ | "splitlines", _ => ofPieces v owner
  | "partition", [sep] | "rpartition", [sep] =>
    match v with
    | .tuple [a, b, c] =>
      let kept := fun w => originAmong w .common [owner]
      .ofParts [kept a, originAmong b .common [sep], kept c]
    | _ => .common
  | _, _ => .made

/-- A method of a list or a dictionary. -/
def ofContainerMethod (v : Value) (name : String) (owner : Traced) (arguments : List Traced) : Origin :=
  match name, owner.value, arguments with
  | "pop", .list _, [] => ((owner.items.getLast?).map (·.origin)).getD .made
  | "pop", .list _, key :: _ => ofItem v owner key.value
  | "get", .dict _, key :: rest | "setdefault", .dict _, key :: rest
  | "pop", .dict _, key :: rest => (entryOf? key.value owner).getD (originAmong v .made rest)
  | "popitem", .dict _, _ =>
    ((owner.entries.getLast?).map fun entry => (Traced.ofEntry entry).origin).getD .made
  | "copy", _, _ | "items", .dict _, _ | "keys", .dict _, _ | "values", .dict _, _ => owner.origin
  | _, _, _ => .made

/-- Does the text have one field and nothing else? -/
def isSingleField (s : String) : Bool :=
  match Fields.pieces s.length s.toList with
  | [.field _] => true
  | _ => false

/-- Filling a text by fields. -/
def ofFormat (v : Value) (s : Traced) (arguments : List Traced) : Origin :=
  match s.value with
  | .text written =>
    if isSingleField written then originAmong v .made (arguments.flatMap (innerParts 3))
    else if written.toList.any fun c => c == '{' || c == '}' then .made
    else originAmong v .made [s]
  | _ => .made

/-- A call. -/
def ofCall (v : Value) (callee : Traced) (arguments : List Traced) : Origin :=
  match callee.value with
  | .method owner name origin =>
    match owner with
    | .text _ => ofTextMethod v name ⟨owner, origin⟩ arguments
    | .list _ | .dict _ => ofContainerMethod v name ⟨owner, origin⟩ arguments
    | .int _ | .float _ => originAmong v .made [⟨owner, origin⟩]
    | _ => .made
  | .formatter owner _ => ofFormat v ⟨owner, (callee.origin.partsOf 1).headD .common⟩ arguments
  | _ => .made

/-! ### Filters -/

/-- The part that a path leads to, of each item. -/
def ofPath (v : Value) (operand : Traced) : Origin :=
  match v with
  | .stream _ xs _ =>
    .ofParts (List.zipWith (fun x item => originAmong x .common (innerParts 3 item)) xs operand.items)
  | _ => .common

/-- A filter that takes items, or all of them. -/
def ofSelection (v : Value) (name : String) (operand : Traced) : Origin :=
  match name with
  | "list" => .ofParts (operand.items.map (·.origin))
  | "items" => .ofParts (operand.entries.map fun entry => (Traced.ofEntry entry).origin)
  | "reverse" => originOfItems v operand.items.reverse
  | _ => originOfItems v operand.items

/-- A filter. `depth` bounds how often a filter applies another one. -/
def ofFilter : Nat → Value → String → Traced → List Traced → Origin
  | depth, v, name, operand, arguments =>
    match name with
    | "string" => originAmong v .made [operand]
    | "trim" => originAmong v .common [operand]
    | "center" | "truncate" | "int" | "float" | "round" | "abs" => originAmong v .made [operand]
    | "replace" => ofTextMethod v "replace" operand arguments
    | "default" | "d" => originAmong v .made (operand :: arguments)
    | "first" => ((operand.items.head?).map (·.origin)).getD .made
    | "last" => ((operand.items.getLast?).map (·.origin)).getD .made
    | "min" | "max" => originAmong v .made operand.items
    | "join" =>
      match operand.items with
      | [item] => originAmong v .made [item]
      | _ => .made
    | "list" | "items" | "reverse" | "sort" | "unique" | "select" | "reject" | "selectattr"
    | "rejectattr" => ofSelection v name operand
    | "format" =>
      ofPercent v operand ⟨.tuple (arguments.map (·.value)), .parts (arguments.map (·.origin))⟩
    | "map" =>
      match depth, v, arguments with
      | depth + 1, .stream _ xs _, inner :: rest =>
        match inner.value.text? with
        | some filter =>
          if knowsFilter filter then
            .ofParts (List.zipWith (fun x item => ofFilter depth x filter item rest) xs operand.items)
          else ofPath v operand
        | none => .common
      | _, v, _ => ofPath v operand
    | _ => .made

end Origin

end Stencil.Expr
