import Stencil.Yaml.Data
import Stencil.Yaml.Token

/-!
# Nodes of a document

The tree that tokens spell, with aliases replaced by what they stand for. Every step takes a token away or
comes to a node that needs none, so the number of tokens bounds the reading.
-/
namespace Stencil.Yaml

/-- How the parts of a collection make data. -/
inductive Make where
  | list
  | pairs
  | ordered
  | mapping
  | set
  deriving DecidableEq, Repr

namespace Make

def collection : Make → Collection
  | list | pairs => .list
  | ordered => .ordered
  | mapping => .mapping
  | set => .set

/-- How a list with a tag is made. -/
def ofListTag? : Option (Option String) → Option Make
  | none | some none | some (some "tag:yaml.org,2002:seq") => some list
  | some (some "tag:yaml.org,2002:pairs") => some pairs
  | some (some "tag:yaml.org,2002:omap") => some ordered
  | some (some _) => none

/-- How a mapping with a tag is made. -/
def ofMappingTag? : Option (Option String) → Option Make
  | none | some none | some (some "tag:yaml.org,2002:map") => some mapping
  | some (some "tag:yaml.org,2002:set") => some set
  | some (some _) => none

end Make

inductive Node where
  /-- A scalar; `tag` is absent if none is written, and its content is what the lone mark leaves open. -/
  | scalar (tag : Option (Option String)) (isPlain : Bool) (text : String)
  | list (tag : Option (Option String)) (items : List Node)
  | mapping (tag : Option (Option String)) (entries : List (Node × Node))
  /-- An alias of a collection that it stands in, which itself stands in `level` ones. -/
  | enclosing (c : Collection) (level : Nat)
  deriving Inhabited

namespace Node

def empty : Node := .scalar none true ""

/-- The tokens still to come, the nodes with names so far, the newest first, and how many collections are
open. -/
structure Source where
  tokens : List Token
  anchors : List (String × Node)
  level : Nat

abbrev Parser := StateT Source (Except Fault)

def next : Parser Token := do return (← get).tokens.headD .streamEnd

def drop : Parser Unit := modify fun s => { s with tokens := s.tokens.tail }

/-- Gives a node a name. -/
def define (name : Option String) (n : Node) : Parser Unit :=
  match name with
  | none => pure ()
  | some name => modify fun s => { s with anchors := (name, n) :: s.anchors }

/-- Completes the node that got its name when there were `before` names. -/
def complete (name : Option String) (before : Nat) (n : Node) : Parser Unit :=
  match name with
  | none => pure ()
  | some name => modify fun s =>
    { s with anchors := s.anchors.set (s.anchors.length - before - 1) (name, n) }

/-- Reads a collection, which has its name already while its parts are read. -/
def collection (name : Option String) (c : Collection) (parts : Parser Node) : Parser Node := do
  let before := (← get).anchors.length
  let level := (← get).level
  define name (.enclosing c level)
  modify fun s => { s with level := level + 1 }
  let n ← parts
  modify fun s => { s with level }
  complete name before n
  return n

def listOf (name : Option String) (tag : Option (Option String)) (items : Parser (List Node)) : Parser Node :=
  collection name (((Make.ofListTag? tag).getD .list).collection) do return .list tag (← items)

def mappingOf (name : Option String) (tag : Option (Option String)) (entries : Parser (List (Node × Node))) :
    Parser Node :=
  collection name (((Make.ofMappingTag? tag).getD .mapping).collection) do return .mapping tag (← entries)

/-- Takes the anchor and the tag that may stand before a node, in either order. -/
def properties : Parser (Option String × Option (Option String)) := do
  match (← get).tokens with
  | .anchor a :: .tag t :: _ | .tag t :: .anchor a :: _ =>
    drop
    drop
    return (some a, some t)
  | .anchor a :: _ =>
    drop
    return (some a, none)
  | .tag t :: _ =>
    drop
    return (none, some t)
  | _ => return (none, none)

/-- Where a node stands: within a block collection, as a value in a block mapping, or in a flow
collection. -/
inductive Position where
  | block
  | blockValue
  | flow
  deriving DecidableEq

/-- Takes the end of a flow collection if it comes next, perhaps behind a comma; else the comma that has to
stand before every entry but the first. -/
def endsFlow (close : Token) (isFirst : Bool) : Parser Bool := do
  if (← next) = close then
    drop
    return true
  else if isFirst then return false
  else if (← next) = .flowEntry then
    drop
    if (← next) = close then
      drop
      return true
    else return false
  else throw .unexpected

mutual
def read (fuel : Nat) (position : Position) : Parser Node :=
  match fuel with
  | 0 => throw .unexpected
  | fuel + 1 => do
    match ← next with
    | .alias name =>
      match (← get).anchors.lookup name with
      | some n =>
        drop
        return n
      | none => throw (.unknownAlias name)
    | _ =>
      let (anchor, tag) ← properties
      match ← next, position with
      | .blockEntry, .blockValue =>
        listOf anchor tag (unindentedItems fuel)
      | .scalar text isPlain, _ =>
        drop
        define anchor (.scalar tag isPlain text)
        return .scalar tag isPlain text
      | .flowListStart, _ =>
        drop
        listOf anchor tag (flowItems fuel true)
      | .flowMappingStart, _ =>
        drop
        mappingOf anchor tag (flowEntries fuel true)
      | .blockListStart, .block | .blockListStart, .blockValue =>
        drop
        listOf anchor tag (blockItems fuel)
      | .blockMappingStart, .block | .blockMappingStart, .blockValue =>
        drop
        mappingOf anchor tag (blockEntries fuel)
      | _, _ =>
        if anchor.isSome || tag.isSome then
          define anchor (.scalar tag true "")
          return .scalar tag true ""
        else throw .unexpected

/-- A node, or the empty one if a token of `ends` comes next. -/
def readUnless (fuel : Nat) (ends : List Token) (position : Position) : Parser Node :=
  match fuel with
  | 0 => throw .unexpected
  | fuel + 1 => do if ends.contains (← next) then return empty else read fuel position

/-- The items of a list in a block, with its end. -/
def blockItems (fuel : Nat) : Parser (List Node) :=
  match fuel with
  | 0 => throw .unexpected
  | fuel + 1 => do
    match ← next with
    | .blockEntry =>
      drop
      let x ← readUnless fuel [.blockEntry, .blockEnd] .block
      return x :: (← blockItems fuel)
    | .blockEnd =>
      drop
      return []
    | _ => throw .unexpected

/-- The items of a list that stands as deep as the mapping around it. -/
def unindentedItems (fuel : Nat) : Parser (List Node) :=
  match fuel with
  | 0 => throw .unexpected
  | fuel + 1 => do
    match ← next with
    | .blockEntry =>
      drop
      let x ← readUnless fuel [.blockEntry, .key, .value, .blockEnd] .block
      return x :: (← unindentedItems fuel)
    | _ => return []

/-- The entries of a mapping in a block, with its end. -/
def blockEntries (fuel : Nat) : Parser (List (Node × Node)) :=
  match fuel with
  | 0 => throw .unexpected
  | fuel + 1 => do
    match ← next with
    | .key =>
      drop
      let k ← readUnless fuel [.key, .value, .blockEnd] .blockValue
      let v ← blockValue fuel
      return (k, v) :: (← blockEntries fuel)
    | .value =>
      let v ← blockValue fuel
      return (empty, v) :: (← blockEntries fuel)
    | .blockEnd =>
      drop
      return []
    | _ => throw .unexpected

def blockValue (fuel : Nat) : Parser Node :=
  match fuel with
  | 0 => throw .unexpected
  | fuel + 1 => do
    match ← next with
    | .value =>
      drop
      readUnless fuel [.key, .value, .blockEnd] .blockValue
    | _ => return empty

/-- The items of a list in brackets, with its end. An entry of a mapping may stand for the mapping. -/
def flowItems (fuel : Nat) (isFirst : Bool) : Parser (List Node) :=
  match fuel with
  | 0 => throw .unexpected
  | fuel + 1 => do
    if ← endsFlow .flowListEnd isFirst then return []
    else
      match ← next with
      | .key =>
        drop
        let pair ← mappingOf none none do
          let k ← readUnless fuel [.value, .flowEntry, .flowListEnd] .flow
          let v ← flowValue fuel .flowListEnd
          return [(k, v)]
        return pair :: (← flowItems fuel false)
      | _ =>
        let x ← read fuel .flow
        return x :: (← flowItems fuel false)

/-- The entries of a mapping in braces, with its end. -/
def flowEntries (fuel : Nat) (isFirst : Bool) : Parser (List (Node × Node)) :=
  match fuel with
  | 0 => throw .unexpected
  | fuel + 1 => do
    if ← endsFlow .flowMappingEnd isFirst then return []
    else
      match ← next with
      | .key =>
        drop
        let k ← readUnless fuel [.value, .flowEntry, .flowMappingEnd] .flow
        let v ← flowValue fuel .flowMappingEnd
        return (k, v) :: (← flowEntries fuel false)
      | .value =>
        let v ← flowValue fuel .flowMappingEnd
        return (empty, v) :: (← flowEntries fuel false)
      | _ =>
        let k ← read fuel .flow
        return (k, empty) :: (← flowEntries fuel false)

def flowValue (fuel : Nat) (close : Token) : Parser Node :=
  match fuel with
  | 0 => throw .unexpected
  | fuel + 1 => do
    match ← next with
    | .value =>
      drop
      readUnless fuel [.flowEntry, close] .flow
    | _ => return empty
end

/-! ### Documents -/

/-- Takes the directives away; at most one names the version, and it has to be a first one. -/
def skipDirectives (versionSeen : Bool) : List Token → Except Fault (List Token)
  | .directive none :: rest => skipDirectives versionSeen rest
  | .directive (some major) :: rest =>
    if versionSeen || major ≠ 1 then .error .badDirective else skipDirectives true rest
  | ts => .ok ts

/-- Nothing comes after the first document but one mark of its end. -/
def checkEnd : List Token → Except Fault Unit
  | [.documentEnd, .streamEnd] | [.streamEnd] | [] => .ok ()
  | _ => .error .severalDocuments

/-- The node of the only document, if there is one. -/
def ofTokens (ts : List Token) : Except Fault (Option Node) := do
  match ts with
  | [.streamEnd] | [] => return none
  | _ =>
    let fuel := 4 * ts.length + 4
    let body ← skipDirectives false ts
    match body with
    | .documentStart :: rest =>
      let ends := [Token.directive none, .documentStart, .documentEnd, .streamEnd]
      let (n, s) ← (readUnless fuel ends .block).run ⟨rest, [], 0⟩
      checkEnd s.tokens
      return some n
    | _ =>
      if body.length < ts.length then .error .badDirective
      else
        let (n, s) ← (read fuel .block).run ⟨ts, [], 0⟩
        checkEnd s.tokens
        return some n

end Node

end Stencil.Yaml
