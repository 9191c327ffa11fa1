import Stencil.Command.Arguments

/-!
# Settings

What a command line asks for: a command with its options, the version, or help. Anything else is a misuse,
which is reported under the name of the command that it concerns.
-/
namespace Stencil.Command

open Text (quote)

inductive Name where
  | run
  | generate
  deriving DecidableEq, Repr

def Name.text : Name → String
  | run => "run"
  | generate => "generate"

def Name.help : Name → String
  | run => "Render the template to stdout"
  | generate => "Render the template to the output file"

def Name.all : List Name := [run, generate]

def Name.ofText? (s : String) : Option Name := all.find? fun n => n.text == s

structure Settings where
  verbose : Bool
  config : Option String
  template : Option String
  output : Option String
  /-- The bindings asked for, in order. -/
  bindings : List String
  showsTree : Bool
  deriving DecidableEq, Repr

def Settings.start : Settings := ⟨false, none, none, none, [], false⟩

/-- What a command line comes to. -/
inductive Request where
  | command (name : Name) (settings : Settings)
  | version
  /-- Help on the program, or on a command. -/
  | help (about : Option Name)
  | misuse (about : Option Name) (message : String)
  deriving DecidableEq, Repr

def program : String := "templar"

def helpOption : Opt where
  names := ["-h", "--help"]
  value := none
  help := "show this help message and exit"

def versionOption : Opt where
  names := ["-V", "--version"]
  value := none
  help := "show program's version number and exit"

def verboseOption : Opt where
  names := ["--verbose"]
  value := none
  help := "debug logging to stderr"

def configOption : Opt where
  names := ["--config"]
  value := some "CONFIG"
  help := "path to the config file (default: ./templar.yaml if present)"

def templateOption : Opt where
  names := ["--template"]
  value := some "TEMPLATE"
  help := "template file to render (overrides 'template' from the config)"

def variableOption : Opt where
  names := ["--var"]
  value := some "NAME=VALUE"
  help := "variable binding (can be given several times, overrides the config)"

def treeOption : Opt where
  names := ["--dump-ast"]
  value := none
  help := "print the parsed tree instead of rendering"

def outputOption : Opt where
  names := ["-o", "--output"]
  value := some "OUTPUT"
  help := "output file (overrides 'output' from the config; stdout if neither is set)"

def globalOptions : List Opt := [helpOption, versionOption, verboseOption]

def Name.options : Name → List Opt
  | run => [helpOption, configOption, templateOption, variableOption, treeOption]
  | generate => [helpOption, configOption, templateOption, variableOption, outputOption]

/-- The effect of an option on the settings. -/
def Settings.use (s : Settings) (u : Use) : Settings :=
  let (o, value) := u
  if o = verboseOption then { s with verbose := true }
  else if o = configOption then { s with config := value }
  else if o = templateOption then { s with template := value }
  else if o = variableOption then { s with bindings := s.bindings ++ value.toList }
  else if o = treeOption then { s with showsTree := true }
  else if o = outputOption then { s with output := value }
  else s

/-- The settings and what was left over, unless an option ends the reading. -/
abbrev Partly := Except Request (Settings × List String)

/-- Reads the options of a command. -/
def commandItems (name : Name) (s : Settings) (extra : List String) : List Item → Partly
  | [] => .ok (s, extra)
  | .use u :: rest =>
    if u.1 = helpOption then .error (.help name) else commandItems name (s.use u) extra rest
  | .extra a :: rest => commandItems name s (extra ++ [a]) rest
  | .failure message :: _ => .error (.misuse name message)
  | .command _ :: _ => .ok (s, extra)

def unknownCommand (s : String) : String :=
  let known := String.intercalate ", " (Name.all.map fun n => quote n.text)
  "argument cmd: invalid choice: " ++ quote s ++ " (choose from " ++ known ++ ")"

/-- Arguments that nothing asks for are an error, after all others. -/
def finish (name : Name) (extra : List String) : Partly → Request
  | .error r => r
  | .ok (s, more) =>
    match extra ++ more with
    | [] => .command name s
    | left => .misuse none ("unrecognized arguments: " ++ String.intercalate " " left)

/-- Reads the options before the command, and the command. -/
def globalItems (s : Settings) (extra : List String) : List Item → Request
  | [] => .misuse none "the following arguments are required: cmd"
  | .use u :: rest =>
    if u.1 = versionOption then .version
    else if u.1 = helpOption then .help none
    else globalItems (s.use u) extra rest
  | .extra a :: rest => globalItems s (extra ++ [a]) rest
  | .failure message :: _ => .misuse none message
  | .command [] :: _ => .misuse none "the following arguments are required: cmd"
  | .command (word :: args) :: _ =>
    match Name.ofText? word with
    | none => .misuse none (unknownCommand word)
    | some name => finish name extra (commandItems name s [] (items name.options false args))

def Request.ofArguments (args : List String) : Request :=
  globalItems .start [] (items globalOptions true args)

end Stencil.Command
