import Stencil.Error

/-!
# What a render needs from outside

A context holds variables and gives expressions a value; a loader gives the text of other templates.
Both work in a monad of the caller's choice: a pure state in the theory and in tests, real files and
output in the program. Every call may fail, and a failed call may have changed the state.
-/
namespace Stencil.Render

/-- An effect of `m` that may fail. What it did to the state of `m` before it failed stays done. -/
abbrev Action (m : Type → Type) (α : Type) := ExceptT Error m α

/-- Progress that a render reports. -/
inductive Event where
  | including (path : String) (depth : Nat)
  | loaded (location : String) (size : Nat)
  | parsed (top total : Nat)
  | evaluated (expression result : String)
  | transformed (name : String) (before after : Nat)
  | rendering (path : String) (bindings : Nat)
  | wrote (path : String) (size : Nat)
  deriving DecidableEq, Repr

structure Context (m : Type → Type) where
  evalCondition : String → Action m Bool
  evalText : String → Action m String
  get : String → Action m (Option String)
  set : String → String → Action m Unit
  unset : String → Action m Unit
  report : Event → m Unit

/-- The text of a template, and where it was found if that is worth a report. -/
structure Source where
  text : String
  location : Option String
  deriving DecidableEq, Repr

abbrev Loader (m : Type → Type) := String → Action m Source

/-- Templates by name. -/
abbrev Library := List (String × String)

/-- The loader that looks names up as they are. -/
def Library.loader {m : Type → Type} [Monad m] (library : Library) : Loader m := fun path =>
  match library.lookup path with
  | some text => return ⟨text, none⟩
  | none => throw (.notFound path "<memory>" "file not found")

end Stencil.Render
