import Stencil.Path
import Stencil.Render.Context
import Stencil.Template.Parse

/-!
# Generating output

A template is walked depth first, and the outputs of its blocks are joined. Block sequences that are
under way wait on a stack of frames, one for each directive entered, so their number is bounded by the
limit on depth. Each step takes a block away from some frame and touches only frames above it, and that
order of stacks is well-founded although an included template may be of any size: generating always ends.
-/
namespace Stencil.Render

open Template (Block Directive)

/-- A sequence of blocks under way. -/
structure Frame where
  /-- The blocks still to come. -/
  blocks : List Block
  /-- How many directives enclose the blocks. -/
  depth : Nat
  /-- The keys of the templates being included, outermost first. -/
  chain : List String
  /-- The name and the expression of the transform that takes the output. -/
  transform : Option (String × String)
  /-- The output so far. -/
  output : String

/-- The lowest frame has depth zero and each other one is one deeper than the frame below it. -/
def Nested : List Frame → Prop
  | [] => True
  | [f] => f.depth = 0
  | f :: g :: rest => f.depth = g.depth + 1 ∧ Nested (g :: rest)

theorem Nested.tail {f : Frame} {fs : List Frame} (h : Nested (f :: fs)) : Nested fs := by
  cases fs with
  | nil => trivial
  | cons g rest => exact h.2

theorem Nested.length_eq {f : Frame} {fs : List Frame} (h : Nested (f :: fs)) :
    fs.length = f.depth := by
  induction fs generalizing f with
  | nil => exact h.symm
  | cons g rest ih =>
    have := ih h.2
    have := h.1
    simp only [List.length_cons]
    omega

/-- Only the depth of a frame matters to nesting. -/
theorem Nested.replace {f f' : Frame} {fs : List Frame} (h : Nested (f :: fs))
    (hd : f'.depth = f.depth) : Nested (f' :: fs) := by
  cases fs with
  | nil => exact hd.trans h
  | cons g rest => exact ⟨hd.trans h.1, h.2⟩

/-- The open frames, innermost first, when directives may nest `limit` deep. -/
structure Stack (limit : Nat) where
  top : Frame
  rest : List Frame
  nested : Nested (top :: rest)
  top_le : top.depth ≤ limit

/-! ### The order of stacks -/

/-- A number for each depth up to `n`, compared from the lowest depth on. -/
def Work : Nat → Type
  | 0 => Nat
  | n + 1 => Nat × Work n

@[reducible]
def Work.order : (n : Nat) → WellFoundedRelation (Work n)
  | 0 => inferInstanceAs (WellFoundedRelation Nat)
  | n + 1 => @Prod.lex Nat (Work n) inferInstance (Work.order n)

/-- The numbers of a list, and zero where it has none. -/
def Work.ofList : (n : Nat) → List Nat → Work n
  | 0, ns => ns.headD 0
  | n + 1, ns => (ns.headD 0, Work.ofList n ns.tail)

/-- Lists that first differ at a place within the width compare as their numbers there do. -/
theorem Work.ofList_lt (n : Nat) (same ns ns' : List Nat) (hlen : same.length ≤ n)
    (h : ns.headD 0 < ns'.headD 0) :
    (Work.order n).rel (Work.ofList n (same ++ ns)) (Work.ofList n (same ++ ns')) := by
  induction same generalizing n with
  | nil =>
    cases n with
    | zero => exact h
    | succ n => exact Prod.Lex.left _ _ h
  | cons w same ih =>
    cases n with
    | zero => simp at hlen
    | succ n => exact Prod.Lex.right _ (ih n (by simpa using hlen))

def Frame.work (f : Frame) : Nat := f.blocks.length + 1

/-- What is left to do at each depth. -/
def Stack.work {limit : Nat} (s : Stack limit) : Work limit :=
  Work.ofList limit ((s.top :: s.rest).reverse.map Frame.work)

/-- Less is left to do in `s'` than in `s`. -/
def Stack.Smaller {limit : Nat} (s' s : Stack limit) : Prop := (Work.order limit).rel s'.work s.work

namespace Stack

variable {limit : Nat}

/-- Takes the first block away from the top frame and adds `text` to its output. -/
def advance (s : Stack limit) (blocks : List Block) (text : String) : Stack limit :=
  { top := { s.top with blocks := blocks, output := s.top.output ++ text }
    rest := s.rest
    nested := s.nested.replace rfl
    top_le := s.top_le }

/-- Opens a frame above the top, which goes on with `blocks` afterwards. -/
def push (s : Stack limit) (blocks : List Block) (h : s.top.depth < limit)
    (children : List Block) (chain : List String) (transform : Option (String × String)) :
    Stack limit :=
  { top := ⟨children, s.top.depth + 1, chain, transform, ""⟩
    rest := { s.top with blocks := blocks } :: s.rest
    nested := ⟨rfl, s.nested.replace rfl⟩
    top_le := h }

/-- Closes the top frame and adds `text` to the output of the one below it. -/
def pop (s : Stack limit) (f : Frame) (rest : List Frame) (h : s.rest = f :: rest) (text : String) :
    Stack limit :=
  { top := { f with output := f.output ++ text }
    rest := rest
    nested := (h ▸ s.nested : Nested (s.top :: f :: rest)).tail.replace rfl
    top_le := by
      have h1 : Nested (s.top :: f :: rest) := h ▸ s.nested
      have h2 := h1.1
      have h3 := s.top_le
      show f.depth ≤ limit
      omega }

theorem advance_smaller (s : Stack limit) {b : Block} {blocks : List Block}
    (h : s.top.blocks = b :: blocks) (text : String) : (s.advance blocks text).Smaller s := by
  have hlen : (s.rest.reverse.map Frame.work).length ≤ limit := by
    have := s.nested.length_eq
    have := s.top_le
    simp only [List.length_map, List.length_reverse]
    omega
  simp only [Smaller, work, advance, List.reverse_cons, List.map_append]
  exact Work.ofList_lt limit _ _ _ hlen (by simp [Frame.work, h])

theorem push_smaller (s : Stack limit) {b : Block} {blocks : List Block}
    (h : s.top.blocks = b :: blocks) (hd : s.top.depth < limit) (children : List Block)
    (chain : List String) (transform : Option (String × String)) :
    (s.push blocks hd children chain transform).Smaller s := by
  have hlen : (s.rest.reverse.map Frame.work).length ≤ limit := by
    have := s.nested.length_eq
    simp only [List.length_map, List.length_reverse]
    omega
  simp only [Smaller, work, push, List.reverse_cons, List.map_append, List.append_assoc]
  exact Work.ofList_lt limit _ _ _ hlen (by simp [Frame.work, h])

theorem pop_smaller (s : Stack limit) (f : Frame) (rest : List Frame) (h : s.rest = f :: rest)
    (text : String) : (s.pop f rest h text).Smaller s := by
  have hlen : ((f :: rest).reverse.map Frame.work).length ≤ limit := by
    have h1 := s.nested.length_eq
    have h2 := s.top_le
    rw [h] at h1
    simp only [List.length_map, List.length_reverse]
    omega
  have hw : (s.pop f rest h text).work
      = Work.ofList limit ((f :: rest).reverse.map Frame.work ++ []) := by
    simp [work, pop, Frame.work]
  have hs : s.work
      = Work.ofList limit ((f :: rest).reverse.map Frame.work ++ [s.top.work]) := by
    simp [work, h]
  rw [Smaller, hw, hs]
  exact Work.ofList_lt limit _ _ _ hlen (by simp [Frame.work])

end Stack

/-! ### Steps -/

/-- What a step leads to: the output of the whole template, or a stack with less left to do. -/
inductive Outcome {limit : Nat} (s : Stack limit) where
  | done (output : String)
  | more (s' : Stack limit) (smaller : s'.Smaller s)

/-- The blocks that a directive expands to, with the chain they run under and the transform that takes
their output. -/
structure Expansion where
  blocks : List Block
  chain : List String
  transform : Option (String × String)

/-- The key by which includes are compared: backslashes are slashes, and the path is normalized. -/
def includeKey (path : String) : String :=
  Path.normalize (path.map fun c => if c = '\\' then '/' else c)

section

variable {m : Type → Type} [Monad m]

def parseReported (report : Event → m Unit) (limit : Nat) (text : String) :
    Action m (List Block) := do
  let blocks ← Template.parseWithin limit text
  report (.parsed blocks.length (Block.count blocks))
  return blocks

/-- Finds the template at `path` and reads it. A template inside itself is an error. -/
def expandInclude (context : Context m) (loader : Option (Loader m)) (limit : Nat) (path : String)
    (depth : Nat) (chain : List String) : Action m Expansion := do
  let some load := loader
    | throw (.unsupported "include" (some s!"no template loader configured for '{path}'"))
  let key := includeKey path
  if chain.contains key then
    throw (.cycle key chain)
  context.report (.including path depth)
  let source ← load path
  match source.location with
  | some location => context.report (.loaded location source.text.length)
  | none => pure ()
  let blocks ← parseReported context.report limit source.text
  return ⟨blocks, chain ++ [key], none⟩

/-- What a block other than a text expands to inside `depth - 1` directives. -/
def expand (context : Context m) (loader : Option (Loader m)) (limit : Nat) (depth : Nat)
    (chain : List String) : Block → Action m (Option Expansion)
  | .text _ => return none
  | .foreign value => throw (.unsupported value.kind (some "unknown block type"))
  | .choice condition children otherwise => do
    let holds ← context.evalCondition condition
    return some ⟨if holds then children else otherwise, chain, none⟩
  | .directive (.group _) children => return some ⟨children, chain, none⟩
  | .directive (.guard condition) children => do
    let holds ← context.evalCondition condition
    return if holds then some ⟨children, chain, none⟩ else none
  | .directive (.inclusion path) _ => do
    return some (← expandInclude context loader limit path depth chain)
  | .directive (.transform name expression) children =>
    return some ⟨children, chain, some (name, expression)⟩
  | .directive (.custom kind) _ =>
    throw (.unsupported kind (some "no generation rule for this directive kind"))

/-- Gives `name` its former value back, or none. -/
def restore (context : Context m) (name : String) : Option String → Action m Unit
  | none => context.unset name
  | some value => context.set name value

/-- The value of `expression` where `name` is bound to `body`. The former binding comes back whether or
not the expression has a value. -/
def applyTransform (context : Context m) (name expression body : String) : Action m String := do
  let previous ← context.get name
  context.set name body
  let result : Except Error String ← ExceptT.lift (context.evalText expression).run
  restore context name previous
  match result with
  | .ok text =>
    context.report (.transformed name body.length text.length)
    return text
  | .error e => throw e

/-- Handles the next block of the top frame, or closes the frame if it has none left. -/
def step (context : Context m) (loader : Option (Loader m)) {limit : Nat} (s : Stack limit) :
    Action m (Outcome s) :=
  match hb : s.top.blocks with
  | [] => do
    let text ← match s.top.transform with
      | none => pure s.top.output
      | some (name, expression) => applyTransform context name expression s.top.output
    match hr : s.rest with
    | [] => return .done text
    | f :: rest => return .more (s.pop f rest hr text) (s.pop_smaller f rest hr text)
  | .text content :: blocks =>
    return .more (s.advance blocks content) (s.advance_smaller hb content)
  | .foreign value :: _ => throw (.unsupported value.kind (some "unknown block type"))
  | b :: blocks =>
    if hd : s.top.depth < limit then do
      match ← expand context loader limit (s.top.depth + 1) s.top.chain b with
      | none => return .more (s.advance blocks "") (s.advance_smaller hb "")
      | some e =>
        return .more (s.push blocks hd e.blocks e.chain e.transform)
          (s.push_smaller hb hd e.blocks e.chain e.transform)
    else throw (.tooDeep limit "generating output")

/-- Steps until the output is whole. -/
def run (context : Context m) (loader : Option (Loader m)) {limit : Nat} (s : Stack limit) :
    Action m String := do
  match ← step context loader s with
  | .done output => return output
  | .more s' _ => run context loader s'
  termination_by (Work.order limit).wf.wrap s.work
  decreasing_by assumption

/-- The stack before the first step. -/
def Stack.start (limit : Nat) (blocks : List Block) : Stack limit :=
  ⟨⟨blocks, 0, [], none, ""⟩, [], rfl, Nat.zero_le limit⟩

/-- The output of a template. -/
def generate (context : Context m) (loader : Option (Loader m)) (limit : Nat)
    (blocks : List Block) : Action m String :=
  run context loader (Stack.start limit blocks)

/-- The output of a template text. The limit holds for reading it and for generating. -/
def renderText (context : Context m) (loader : Option (Loader m)) (limit : Int) (text : String) :
    Action m String := do
  let limit ← Template.checkLimit limit
  let blocks ← parseReported context.report limit text
  generate context loader limit blocks

end

end Stencil.Render
