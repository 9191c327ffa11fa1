import Stencil.Yaml.Node
import Stencil.Yaml.Scalar

/-!
# Documents

From text to data. A document holds each key of a mapping once, except where mappings are merged: what is
merged in gives way to what the mapping says itself. Collections are read level by level, so the first
fault is the one nearest to the top; a key is read with all its parts at once. Text without a document
stands for null.
-/
namespace Stencil.Yaml

open Scalar (Kind)

abbrev Entries := List (Node × Node)

/-- The entries of the collections that a node stands in, the outermost first; lists have none. -/
abbrev Around := List Entries

namespace Node

/-- The kind of a scalar: by its tag, or by how it is written. -/
def kind? (tag : Option (Option String)) (isPlain : Bool) (text : String) : Option Kind :=
  match tag with
  | none => some (if isPlain then Scalar.kindOf text else .text)
  | some none => some (Scalar.kindOf text)
  | some (some name) => Scalar.kindNamed? name

/-- Is it the key that merges other mappings in? -/
def isMerge : Node → Bool
  | .scalar tag isPlain text => kind? tag isPlain text == some .merge
  | _ => false

/-- How a collection is made. -/
def make? : Node → Option Make
  | .list tag _ => Make.ofListTag? tag
  | .mapping tag _ => Make.ofMappingTag? tag
  | .scalar .. | .enclosing .. => none

/-- The node as seen from inside of it. -/
def enclosed (level : Nat) (n : Node) : Node :=
  match n.make? with
  | some make => .enclosing make.collection level
  | none => n

end Node

/-! ### Merging -/

/-- What a mapping holds: what was merged in, and its own entries. -/
structure Merged where
  inherited : Entries
  own : Entries

def Merged.all (m : Merged) : Entries := m.inherited ++ m.own

/-- The entries that a mapping brings in, with `flatten` for what a mapping holds. `others` are the entries
beside it, which an alias of the mapping around it brings in. -/
def mergeOne (flatten : Entries → Except Fault Merged) (around : Around) (others : Entries) :
    Node → Except Fault Entries
  | .mapping _ entries => do return (← flatten entries).all
  | .enclosing .mapping level | .enclosing .set level =>
    if level = around.length then .ok others
    else .ok ((around.getD level []).map fun e => (e.1, e.2.enclosed (level + 1)))
  | _ => .error .badMerge

/-- The entries that a mapping or a list of mappings brings in; of several mappings the first counts. -/
def mergeAll (flatten : Entries → Except Fault Merged) (around : Around) (others : Entries) :
    Node → Except Fault Entries
  | .list _ items => do
    let parts ← items.mapM (mergeOne flatten around others)
    return parts.reverse.flatten
  | n => mergeOne flatten around others n

/-- Takes the keys that merge out of the entries, `done` being the entries before, newest first. -/
def mergeEntries (flatten : Entries → Except Fault Merged) (around : Around) (inherited done : Entries) :
    Entries → Except Fault Merged
  | [] => .ok ⟨inherited, done.reverse⟩
  | (k, v) :: rest =>
    if !k.isMerge then mergeEntries flatten around inherited ((k, v) :: done) rest
    else if !inherited.isEmpty then .error .repeatedKey
    else do
      let inherited ← mergeAll flatten around (done.reverse ++ rest) v
      mergeEntries flatten around inherited done rest

/-- What a mapping with these entries holds. -/
def flatten : Nat → Around → Entries → Except Fault Merged
  | 0, _, _ => .error .unexpected
  | fuel + 1, around, entries =>
    mergeEntries (flatten fuel (around ++ [entries])) around [] [] entries

/-! ### Collections -/

/-- A collection that is still to be read. -/
structure Pending where
  node : Node
  around : Around

/-- Data, or a collection that is read later. -/
inductive Part where
  | done (d : Data)
  | later (p : Pending)

/-- A collection whose keys and scalars are read. -/
inductive Opened where
  | list (items : List Part)
  | pairs (items : List (Part × Part))
  | ordered (entries : List (Data × Part))
  | mapping (entries : List (Data × Part))
  | set (entries : List (Data × Part))

/-- Reads a scalar; a collection is left for later. -/
def Part.ofNode (around : Around) (n : Node) : Except Fault Part :=
  match n with
  | .scalar tag isPlain text => do
    match Node.kind? tag isPlain text with
    | some kind => return .done (← kind.read text)
    | none => .error .unknownTag
  | .enclosing c _ => .ok (.done (.enclosing c))
  | .list .. | .mapping .. => if n.make?.isSome then .ok (.later ⟨n, around⟩) else .error .unknownTag

/-- What a key of a mapping becomes. A list becomes a tuple; one that the key itself stands in has no items
yet. -/
def asKey : Data → Except Fault Data
  | .list xs => .ok (.tuple xs)
  | .enclosing .list => .ok (.tuple [])
  | .mapping _ | .ordered _ | .set _ | .enclosing _ => .error .badKey
  | d => .ok d

def unhashable {α : Type} (type : String) : Except Fault α := .error (.noData .badType s!"unhashable type: '{type}'")

/-- A key is looked up, which fails if there are collections in it. -/
def checkKey (d : Data) : Except Fault Unit := d.unhashable?.elim (.ok ()) unhashable

def Part.hasText : Part → Bool
  | .done d => d.hasText
  | .later _ => true

/-- A key that is bound twice is a fault, whose message shows the key and both values. -/
def repeated {α : Type} (key : Data) (old new : Part) : Except Fault α :=
  if key.hasText && old.hasText && new.hasText then .error .repeatedKey
  else .error (.noData .badValue Data.tooLongToShow)

/-- Binds a key. A key that is bound already keeps its place. -/
def insertEntry (key : Data) (value : Part) : List (Data × Part) → List (Data × Part)
  | [] => [(key, value)]
  | (k, v) :: rest =>
    if Data.sameKey k key then (k, value) :: rest else (k, v) :: insertEntry key value rest

/-- The data of a key. The equals sign is a text there. -/
def keyOf (read : Node → Except Fault Data) : Node → Except Fault Data
  | n@(.scalar tag isPlain text) =>
    if Node.kind? tag isPlain text == some .value then .ok (.text text) else do asKey (← read n)
  | n => do asKey (← read n)

/-- Reads entries one after the other: the key with `read`, then the value with `part`. -/
def openEntries (read : Node → Except Fault Data) (part : Node → Except Fault Part) (isMerged : Bool)
    (done : List (Data × Part)) : Entries → Except Fault (List (Data × Part))
  | [] => .ok done
  | (k, v) :: rest => do
    let key ← keyOf read k
    let value ← part v
    checkKey key
    match done.find? fun e => Data.sameKey e.1 key with
    | some (_, old) =>
      if isMerged then openEntries read part isMerged (insertEntry key value done) rest
      else repeated key old value
    | none => openEntries read part isMerged (done ++ [(key, value)]) rest

/-- The entry of a mapping that has one alone. -/
def onlyEntry : Node → Except Fault (Node × Node)
  | .mapping _ [e] => .ok e
  | _ => .error .badPair

/-- A part that is looked up at once, so it has to be a scalar. -/
def Part.scalar : Part → Except Fault Data
  | .later p => unhashable ((p.node.make?.getD .list).collection).typeName
  | .done d => do
    checkKey d
    return d

/-- Reads the items of a mapping that is written as a list, one after the other. -/
def openOrdered (part : Entries → Node → Except Fault Part) (done : List (Data × Part)) :
    List Node → Except Fault (List (Data × Part))
  | [] => .ok done
  | n :: rest => do
    let (k, v) ← onlyEntry n
    let key ← (← part [(k, v)] k).scalar
    if done.any fun e => Data.sameKey e.1 key then .error (.noData .badAssertion "")
    else
      let value ← part [(k, v)] v
      openOrdered part (done ++ [(key, value)]) rest

/-- Reads the items of a list of pairs. -/
def openPairs (part : Entries → Node → Except Fault Part) (items : List Node) :
    Except Fault (List (Part × Part)) :=
  items.mapM fun n => do
    let (k, v) ← onlyEntry n
    let key ← part [(k, v)] k
    return (key, ← part [(k, v)] v)

/-- Reads the parts of a collection: keys with `read`, and all else with `part`. -/
def Pending.open (fuel : Nat) (read : Around → Node → Except Fault Data)
    (part : Around → Node → Except Fault Part) (p : Pending) : Except Fault Opened :=
  let single (e : Entries) := part (p.around ++ [[], e])
  match p.node with
  | .mapping _ entries => do
    let around := p.around ++ [entries]
    let m ← flatten fuel p.around entries
    let opened ← openEntries (read around) (part around) (!m.inherited.isEmpty) [] m.all
    return if p.node.make? = some .set then .set opened else .mapping opened
  | .list _ items =>
    match p.node.make? with
    | some .ordered => do return .ordered (← openOrdered single [] items)
    | some .pairs => do return .pairs (← openPairs single items)
    | _ => do return .list (← items.mapM (part (p.around ++ [[]])))
  | _ => .ok (.list [])

/-! ### Levels -/

def Part.pending : Part → List Pending
  | .done _ => []
  | .later p => [p]

def Opened.pending : Opened → List Pending
  | .list items => items.flatMap Part.pending
  | .pairs items => items.flatMap fun e => e.1.pending ++ e.2.pending
  | .ordered entries | .mapping entries | .set entries => entries.flatMap fun e => e.2.pending

/-- Puts the next data in the place of a collection that was left for later. -/
def Part.fill : Part → StateM (List Data) Data
  | .done d => return d
  | .later _ => modifyGet fun ds => (ds.headD .null, ds.tail)

def fillEntries (entries : List (Data × Part)) : StateM (List Data) (List (Data × Data)) :=
  entries.mapM fun e => do return (e.1, ← e.2.fill)

/-- The values in a set do not count, but they are read. -/
def Opened.fill : Opened → StateM (List Data) Data
  | .list items => do return .list (← items.mapM Part.fill)
  | .pairs items => do return .list (← items.mapM fun e => do return .tuple [← e.1.fill, ← e.2.fill])
  | .ordered entries => do return .ordered (← fillEntries entries)
  | .mapping entries => do return .mapping (← fillEntries entries)
  | .set entries => do return .set ((← fillEntries entries).map (·.1))

/-- Reads a node with all its parts at once. -/
def readDeep : Nat → Around → Node → Except Fault Data
  | 0, _, _ => .error .unexpected
  | fuel + 1, around, n => do
    match ← Part.ofNode around n with
    | .done d => return d
    | .later p =>
      let opened ← p.open fuel (readDeep fuel) fun around n => do return .done (← readDeep fuel around n)
      return (opened.fill.run []).1

/-- Reads the collections of one level, then those in them. -/
def readLevel : Nat → List Pending → Except Fault (List Data)
  | 0, _ => .error .unexpected
  | fuel + 1, level => do
    let opened ← level.mapM (Pending.open fuel (readDeep fuel) Part.ofNode)
    let next := opened.flatMap Opened.pending
    let data ← if next.isEmpty then .ok [] else readLevel fuel next
    return ((opened.mapM Opened.fill).run data).1

def Node.toData (fuel : Nat) (n : Node) : Except Fault Data := do
  match ← Part.ofNode [] n with
  | .done d => return d
  | .later p => return (← readLevel fuel [p]).headD .null

/-- The data of a document. No collection lies as deep as the document is long. -/
def dataOf (text : String) : Except Fault Data := do
  match ← Node.ofTokens (← Token.scan text) with
  | none => return .null
  | some n => n.toData (text.length + 2)

/-- Faults of the notation are diagnosed. Data that do not exist break the reading off. -/
def Fault.refusal : Fault → Refusal
  | noData fault detail => .aborted fault detail
  | fault => .diagnosed fault.detail

/-- The reader of documents. -/
def read : Reader := fun text => (dataOf text).mapError Fault.refusal

end Stencil.Yaml
