import Stencil.Expr.Engine
import Stencil.Path
import Stencil.Sorting
import Stencil.Template.Parse
import Stencil.Yaml.Data

/-!
# Run configurations

Which template to render, where the output goes, and what names are bound to at the start. A configuration
is read from data; every field is checked before any is used, and the first flaw in a fixed order is
reported. Bindings given later take the place of those read.
-/
namespace Stencil

open Stencil.Expr (Bindings)
open Yaml (Data)

structure Config where
  template : Option Path
  output : Option Path
  bindings : Bindings
  limit : Nat
  /-- Where relative paths of the configuration start. -/
  root : Path
  deriving DecidableEq, Repr

namespace Config

/-- The configuration that leaves everything open. -/
def empty (root : Path) : Config := ⟨none, none, [], Template.defaultLimit, root⟩

def allowedKeys : List String := ["template", "output", "variables", "max_depth"]

def isAllowed : Data → Bool
  | .text s => allowedKeys.contains s
  | _ => false

/-- Refuses a configuration for a flaw that shows some data. -/
def showing {α : Type} (d : Data) (flaw : Data → ConfigFlaw) : Except Error α :=
  .error (if d.hasText then .config (flaw d) else .badData .badValue Yaml.Data.tooLongToShow)

/-- Refuses keys that no configuration has; all of them are named, sorted. -/
def checkKeys (entries : List (Data × Data)) : Except Error Unit :=
  match (entries.map (·.1)).filter (!isAllowed ·) with
  | [] => .ok ()
  | extra =>
    match Sorting.sort Data.less extra with
    | .ok sorted => showing (.list sorted) fun d => .unexpectedKeys d.literal
    | .error reason => .error (.incomparable reason)

/-- A field that is a text, or absent or null. -/
def textField (entries : List (Data × Data)) (name : String) : Except Error (Option String) :=
  match Data.find? name entries with
  | none | some .null => .ok none
  | some (.text s) => .ok (some s)
  | some d => .error (.config (.notText name d.typeName))

/-- Bindings of names to texts, both written as texts. -/
def textBindings (done : Bindings) : List (Data × Data) → Except Error Bindings
  | [] => .ok done
  | (.text name, .text value) :: rest => textBindings (done.set name value) rest
  | (name, value) :: _ => showing name fun d => .badVariable d.plainText value.typeName

/-- The field of variables; whatever is empty stands for none. -/
def variablesField (entries : List (Data × Data)) : Except Error Bindings :=
  match Data.find? "variables" entries with
  | none => .ok []
  | some d =>
    match d.entries? with
    | some entries => textBindings [] entries
    | none => if d.isEmpty then .ok [] else .error (.config (.variablesNotMapping d.typeName))

/-- The limit on depth, an integer above zero. -/
def limitField (entries : List (Data × Data)) : Except Error Nat :=
  match Data.find? "max_depth" entries with
  | none => .ok Template.defaultLimit
  | some (.int n) =>
    if n < 1 then showing (.int n) fun d => .badDepth d.literal else .ok n.toNat
  | some d => showing d fun d => .badDepth d.literal

/-- A path as seen from the root; the empty one counts as absent. -/
def pathIn (root : Path) (written : Option String) : Option Path :=
  match written with
  | none | some "" => none
  | some s => some (root.join (Path.ofString s))

/-- The configuration that a mapping spells. -/
def ofEntries (entries : List (Data × Data)) (root : Path) : Except Error Config := do
  checkKeys entries
  let template ← textField entries "template"
  let output ← textField entries "output"
  let bindings ← variablesField entries
  let limit ← limitField entries
  return ⟨pathIn root template, pathIn root output, bindings, limit, root⟩

/-- Takes what is given in place of what was there; bindings are merged. -/
def override (c : Config) (template output : Option Path) (bindings : Bindings) : Config :=
  { c with
    template := template <|> c.template
    output := output <|> c.output
    bindings := bindings.foldl (fun b p => b.set p.1 p.2) c.bindings }

/-! ### Bindings written as texts -/

/-- What is before the first equals sign, without blanks around it, and what is behind it. -/
def readBinding (spec : String) : Except Error (String × String) :=
  let cs := spec.toList
  match cs.dropWhile (· ≠ '=') with
  | [] => .error (.bindingWithoutValue spec)
  | _ :: value =>
    let name := Text.strip (String.ofList (cs.takeWhile (· ≠ '=')))
    if name = "" then .error (.bindingWithoutName spec)
    else .ok (name, String.ofList value)

/-- The bindings of all specs; the last spec of a name counts, and the first bad spec is reported. -/
def readBindings (specs : List String) : Except Error Bindings :=
  specs.foldlM (fun b spec => do
    let (name, value) ← readBinding spec
    return b.set name value) []

end Config

end Stencil
