import Stencil.Text.Letters
import Stencil.Text.Quoted
import Stencil.Text.Split

/-!
# Arguments of a command line

Options, by their names or by the beginning of a long name that fits one option alone, and what is neither
an option nor its value. All arguments are sorted before the first option has an effect, so an ambiguous
name is reported whatever stands before it.
-/
namespace Stencil.Command

open Text (quote)

/-- An option, with its names in the order in which messages give them. -/
structure Opt where
  names : List String
  /-- What its value is called, if it takes one. -/
  value : Option String
  help : String
  deriving DecidableEq, Repr

def Opt.takesValue (o : Opt) : Bool := o.value.isSome

def Opt.title (o : Opt) : String := String.intercalate "/" o.names

/-- What an argument is taken for. -/
inductive Shape where
  | operand
  /-- Two dashes; what comes later is operands. -/
  | separator
  /-- `glued` is text that stands in one argument with the name. -/
  | known (o : Opt) (name : String) (glued : Option (List Char))
  | unknown

/-- The name before an equals sign and what is behind it. -/
def splitGlued (s : String) : String × Option (List Char) :=
  match Text.cutAt? ['='] s.toList with
  | some (name, value) => (String.ofList name, some value)
  | none => (s, none)

def named? (options : List Opt) (name : String) : Option Opt :=
  options.find? fun o => o.names.contains name

/-- The options with a name that begins as written, with the value glued to it. One dash and a letter may be
followed by the value at once. -/
def candidates (options : List Opt) (s : String) : List (Opt × String × Option (List Char)) :=
  let names := options.flatMap fun o => o.names.map fun name => (o, name)
  if s.startsWith "--" then
    let (start, glued) := splitGlued s
    (names.filter fun p => p.2.startsWith start).map fun p => (p.1, p.2, glued)
  else
    let short := String.ofList (s.toList.take 2)
    names.filterMap fun p =>
      if p.2 = short then some (p.1, p.2, some (s.toList.drop 2))
      else if p.2.startsWith s then some (p.1, p.2, none)
      else none

def isDigits (cs : List Char) : Bool := cs.all fun c => (Text.decimalValue? c).isSome

/-- A dash and a number: digits, perhaps with a point before the last of them. -/
def isNegativeNumber (s : String) : Bool :=
  match s.toList with
  | '-' :: cs =>
    match Text.cutAt? ['.'] cs with
    | some (whole, fraction) => isDigits whole && !fraction.isEmpty && isDigits fraction
    | none => !cs.isEmpty && isDigits cs
  | _ => false

def shapeOf (options : List Opt) (s : String) : Except String Shape :=
  if !s.startsWith "-" || s = "-" then .ok .operand
  else
    match named? options s, splitGlued s with
    | some o, _ => .ok (.known o s none)
    | none, (name, glued) =>
      match if glued.isSome then named? options name else none with
      | some o => .ok (.known o name glued)
      | none =>
        match candidates options s with
        | [(o, name, glued)] => .ok (.known o name glued)
        | [] =>
          if isNegativeNumber s || s.toList.contains ' ' then .ok .operand else .ok .unknown
        | several =>
          let names := String.intercalate ", " (several.map fun c => c.2.1)
          .error s!"ambiguous option: {s} could match {names}"

/-- What all arguments are taken for. -/
def shapes (options : List Opt) : List String → Except String (List (String × Shape))
  | [] => .ok []
  | "--" :: rest => .ok (("--", .separator) :: rest.map fun s => (s, .operand))
  | s :: rest => do
    let shape ← shapeOf options s
    return (s, shape) :: (← shapes options rest)

/-- An option with its value. -/
abbrev Use := Opt × Option String

/-- What the arguments say, taken one after the other: uses of options, then what is left over. -/
inductive Item where
  | use (u : Use)
  | extra (s : String)
  /-- The first operand and all that follows it. -/
  | command (args : List String)
  | failure (message : String)

def wrong {α : Type} (o : Opt) (message : String) : Except String α :=
  .error s!"argument {o.title}: {message}"

/-- What an option says, and the arguments behind it. -/
abbrev Taken := Except String (List Item × List (String × Shape))

/-- The value of an option is the next argument, which has to be an operand. -/
def takeValue (o : Opt) (rest : List (String × Shape)) : Taken :=
  if o.takesValue then
    match rest with
    | (value, .operand) :: rest => .ok ([.use (o, some value)], rest)
    | _ => wrong o "expected one argument"
  else .ok ([.use (o, none)], rest)

/-- Options that are glued together behind one dash: all but the last take no value. A letter that is no
option makes all of them an error. -/
def unglue (options : List Opt) (o : Opt) (isShort : Bool) (glued : List Char)
    (rest : List (String × Shape)) : Taken :=
  if o.takesValue then .ok ([.use (o, some (String.ofList glued))], rest)
  else
    let ignored : Taken := wrong o ("ignored explicit argument " ++ quote (String.ofList glued))
    match glued with
    | [] => ignored
    | c :: more =>
      match if isShort then named? options (String.ofList ['-', c]) else none with
      | none => ignored
      | some next => do
        let (items, rest) ←
          if more.isEmpty then takeValue next rest else unglue options next true more rest
        return (.use (o, none) :: items, rest)
  termination_by glued.length

/-- What the option says that an argument names. -/
def take (options : List Opt) (o : Opt) (name : String) (glued : Option (List Char))
    (rest : List (String × Shape)) : Taken :=
  match glued with
  | some glued => unglue options o (!name.startsWith "--") glued rest
  | none => takeValue o rest

/-- Is an operand left, perhaps behind a separator? -/
def hasOperand : List (String × Shape) → Bool
  | (_, .operand) :: _ | (_, .separator) :: _ :: _ => true
  | _ => false

/-- Goes through the arguments. If commands are expected, the first operand begins one. -/
def itemsFrom (options : List Opt) (expectsCommand : Bool) :
    Nat → List (String × Shape) → List Item
  | 0, _ | _ + 1, [] => []
  | fuel + 1, (s, shape) :: rest =>
    match shape with
    | .known o name glued =>
      match take options o name glued rest with
      | .error message => [.failure message]
      | .ok (items, rest) => items ++ itemsFrom options expectsCommand fuel rest
    | .unknown => .extra s :: itemsFrom options expectsCommand fuel rest
    | _ =>
      if expectsCommand && hasOperand ((s, shape) :: rest) then
        [.command (s :: rest.map (·.1))]
      else .extra s :: itemsFrom options expectsCommand fuel rest

def items (options : List Opt) (expectsCommand : Bool) (args : List String) : List Item :=
  match shapes options args with
  | .error message => [.failure message]
  | .ok shaped => itemsFrom options expectsCommand (shaped.length + 1) shaped

end Stencil.Command
