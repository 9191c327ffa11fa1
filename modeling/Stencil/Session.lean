import Stencil.Expr.Engine
import Stencil.Render.Generator

/-!
# Sessions

One context, one library and one limit, used step after step. A step that fails leaves the session usable;
what is prepared for it stays prepared.
-/
namespace Stencil

open Stencil.Expr (Bindings Engine Value)
open Render (Context Library)

inductive Session.Step where
  | set (name : String) (value : Value)
  | unset (name : String)
  | get (name : String)
  | condition (expression : String)
  | text (expression : String)
  | render (text : String)
  | addTemplate (path text : String)
  | load (path : String)
  /-- Takes a copy of the bindings and binds a name there. -/
  | copyAndSet (name value : String)

inductive Session.Answer where
  | nothing
  | holds (b : Bool)
  | text (s : String)
  | copy (b : Bindings)
  deriving DecidableEq, Repr

structure Session (e : Engine) where
  memory : e.Memory
  library : Library

namespace Session

variable {e : Engine}

def fresh (e : Engine) (b : Bindings) (library : Library) : Session e := ⟨.fresh e b, library⟩

/-- Adds a template in front, where it is found before another one of its path. -/
def add (s : Session e) (path text : String) : Session e :=
  { s with library := (path, text) :: s.library.filter fun p => p.1 ≠ path }

/-- Lets the context of the session act. Reports go nowhere. -/
def act {α : Type} (s : Session e) (action : Context (StateM e.Memory) →
    Render.Action (StateM e.Memory) α) : Except Error α × Session e :=
  let (result, memory) := (action (e.context fun _ => pure ())).run.run s.memory
  (result, { s with memory })

/-- The answer of a step, and the session after it. -/
def step (limit : Nat) (s : Session e) : Step → Except Error Answer × Session e
  | .set name v =>
    match s.memory.bindings.bind name v with
    | .error error => (.error error, s)
    | .ok b => (.ok .nothing, { s with memory := { s.memory with bindings := b } })
  | .unset name => s.act fun c => do
    c.unset name
    return .nothing
  | .get name => s.act fun c => do
    match ← c.get name with
    | some v => return .text v
    | none => return .nothing
  | .condition expression => s.act fun c => do return .holds (← c.evalCondition expression)
  | .text expression => s.act fun c => do return .text (← c.evalText expression)
  | .render text => s.act fun c => do
    return .text (← Render.renderText c (some s.library.loader) limit text)
  | .addTemplate path text => (.ok .nothing, s.add path text)
  | .load path => s.act fun _ => do return .text (← s.library.loader path).text
  | .copyAndSet name value => (.ok (.copy (s.memory.bindings.set name value)), s)

end Session

end Stencil
