import Stencil.Command.Settings

/-!
# Help

How a command line is used: the options in one line, and a table that says what each is for. Lines are filled with
words as far as a terminal of eighty columns has room for them.
-/
namespace Stencil.Command

open Text (braced)

def lineWidth : Nat := 78

def spaces (n : Nat) : String := String.ofList (List.replicate n ' ')

/-- Puts a word behind the last line if there is room, else on a line of its own. The last line comes first. -/
def addWord (width : Nat) (lines : List String) (word : String) : List String :=
  match lines with
  | [] => [word]
  | line :: before =>
    if line.length + 1 + word.length ≤ width then (line ++ " " ++ word) :: before
    else word :: line :: before

/-- Words on lines that begin at a column. -/
def fill (column : Nat) (words : List String) : String :=
  let lines := (words.foldl (addWord (lineWidth - column)) []).reverse
  String.intercalate ("\n" ++ spaces column) lines ++ "\n"

/-- A name of the option, with what its value is called. -/
def Opt.withValue (o : Opt) (name : String) : String :=
  match o.value with
  | none => name
  | some value => name ++ " " ++ value

def Opt.inUsage (o : Opt) : String := "[" ++ o.withValue (o.names.headD "") ++ "]"

def commandNames : String := braced (String.intercalate "," (Name.all.map Name.text))

/-- The program, or one of its commands. -/
def title : Option Name → String
  | none => program
  | some name => program ++ " " ++ name.text

def usage (command : Option Name) : String :=
  let start := "usage: " ++ title command ++ " "
  let parts := match command with
    | none => globalOptions.map Opt.inUsage ++ [commandNames, "..."]
    | some name => name.options.map Opt.inUsage
  start ++ fill start.length parts

/-! ### Tables -/

/-- A line of a table: what is explained, and the explanation. -/
structure Row where
  indent : Nat
  head : String
  help : String

def Row.ofOption (o : Opt) : Row := ⟨2, String.intercalate ", " (o.names.map o.withValue), o.help⟩

def Row.ofCommand (name : Name) : Row := ⟨4, name.text, name.help⟩

/-- Where explanations begin: right of the longest head, unless that is too far. -/
def helpColumn (rows : List Row) : Nat :=
  min 24 ((rows.map fun r => r.indent + r.head.length).foldl max 0 + 2)

def Row.text (column : Nat) (r : Row) : String :=
  let start := spaces r.indent ++ r.head
  let gap := if start.length + 2 ≤ column then spaces (column - start.length) else "\n" ++ spaces column
  if r.help.isEmpty then start ++ "\n" else start ++ gap ++ fill column (r.help.splitOn " ")

/-- Tables with a common column for the explanations. -/
def tables (sections : List (String × List Row)) : String :=
  let column := helpColumn (sections.flatMap (·.2))
  String.join (sections.map fun (heading, rows) => "\n" ++ heading ++ ":\n" ++ String.join (rows.map (Row.text column)))

def helpText : Option Name → String
  | none =>
    let commands := ⟨2, commandNames, ""⟩ :: Name.all.map Row.ofCommand
    usage none ++ "\nTemplar template compiler\n"
      ++ tables [("positional arguments", commands), ("options", globalOptions.map Row.ofOption)]
  | some name => usage name ++ tables [("options", name.options.map Row.ofOption)]

end Stencil.Command
