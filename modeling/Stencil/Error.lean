import Stencil.Text.Quoted

/-!
# Errors

Everything that can go wrong, as causes with the facts that a report needs, and the one place where a
cause becomes text. `Error.isUserFault` tells the causes that a user can mend from those that abort a
program.
-/
namespace Stencil

open Text (quote)

/-- Why template text is refused. -/
inductive Flaw where
  | unterminatedHeader
  | emptyHeader
  | unmatchedClosing
  | unclosed (header : String)
  | elseOutside
  | elseArgument
  | elseBody
  | strayElse
  | missingArgument (keyword : String)
  | badTransform
  | includeBody
  | missingElse
  | repeatedElse
  | other (detail : String)
  deriving DecidableEq, Repr

def Flaw.detail : Flaw → String
  | unterminatedHeader => "Directive header is missing its terminating newline"
  | emptyHeader => "Empty directive header"
  | unmatchedClosing => "Unmatched closing marker"
  | unclosed header => s!"Unclosed directive '{header}'"
  | elseOutside => "'else' is only allowed directly inside an 'ifelse' directive"
  | elseArgument => "'else' takes no arguments"
  | elseBody => "'else' directive must have an empty body"
  | strayElse => "Unexpected 'else' separator"
  | missingArgument keyword => s!"'{keyword}' directive requires an argument"
  | badTransform => "Invalid transform header, expected 'transform <name>: <expression>'"
  | includeBody => "'include' directive must have an empty body"
  | missingElse => "'ifelse' directive requires an 'else' separator"
  | repeatedElse => "Multiple 'else' separators in one 'ifelse'"
  | other detail => detail

/-- A flaw with its place and all the text from there on. -/
structure Malformed where
  flaw : Flaw
  line : Int
  column : Int
  remainder : String
  deriving DecidableEq, Repr

/-- At most `limit` characters, with three dots if some were left out. -/
def preview (limit : Nat) (s : String) : String :=
  if s.length > limit then String.ofList (s.toList.take limit) ++ "..." else s

def Malformed.message (m : Malformed) : String :=
  let start := s!"{m.flaw.detail} at {m.line}:{m.column}"
  if m.remainder = "" then start
  else start ++ " (remaining input: " ++ quote (preview 40 m.remainder) ++ ")"

/-- Why an expression has no value, or not one of the type asked for. -/
inductive EvaluationFlaw where
  | badSyntax (detail : String)
  | undefinedName (detail : String)
  | rejected (detail : String)
  | failed (detail : String)
  | undefinedResult
  | notBoolean (type : String)
  | notText (type : String)
  | other (detail : String)
  deriving DecidableEq, Repr

def EvaluationFlaw.detail : EvaluationFlaw → String
  | badSyntax detail => "Syntax error: " ++ detail
  | undefinedName detail => "Undefined variable: " ++ detail
  | rejected detail => "Operation rejected by sandbox: " ++ detail
  | failed detail => "Evaluation failed: " ++ detail
  | undefinedResult => "Expression refers to an undefined variable"
  | notBoolean type => "Condition must evaluate to a boolean, got " ++ type
  | notText type => "Expression must evaluate to a string, got " ++ type
  | other detail => detail

/-- The kind of a mistake that comes out of an evaluation as it is. -/
inductive StrayFault where
  | undefinedName
  | rejected
  | badType
  | badValue
  | badForm
  deriving DecidableEq, Repr

/-- What comes out of an evaluation in place of an error of its expression: the constant parts fail when they
are worked out in advance, the expression cannot be brought into the form that is run, or the message of a
failure cannot be made. -/
structure Stray where
  fault : StrayFault
  detail : String
  deriving DecidableEq, Repr

/-- What is wrong with data that are written as the notation of documents demands. -/
inductive DataFault where
  | badValue
  | badType
  | badKey
  | badIndex
  | badAssertion
  deriving DecidableEq, Repr

/-- Why two keys have no order. -/
inductive Incomparable where
  | types (left right : String)
  /-- Only one of two moments is in a time zone. -/
  | zones
  | dateAndMoment
  deriving DecidableEq, Repr

def Incomparable.detail : Incomparable → String
  | types left right => s!"'<' not supported between instances of '{left}' and '{right}'"
  | zones => "can't compare offset-naive and offset-aware datetimes"
  | dateAndMoment => "can't compare datetime.datetime to datetime.date"

/-- Why a configuration is refused. -/
inductive ConfigFlaw where
  | unexpectedKeys (shown : String)
  | notText (field type : String)
  | variablesNotMapping (type : String)
  | badVariable (name type : String)
  | badDepth (shown : String)
  | missingFile (path : String)
  | unreadable (path reason : String)
  | invalidDocument (path diagnosis : String)
  | notMapping (path : String)
  | noTemplate
  | other (detail : String)
  deriving DecidableEq, Repr

def ConfigFlaw.detail : ConfigFlaw → String
  | unexpectedKeys shown => "Unexpected configuration keys: " ++ shown
  | notText field type => s!"'{field}' must be a string, got {type}"
  | variablesNotMapping type => s!"'variables' must be a mapping, got {type}"
  | badVariable name type =>
    s!"Variable '{name}' must map a string name to a string value, got {type}"
  | badDepth shown => s!"'max_depth' must be a positive integer, got {shown}"
  | missingFile path => s!"Config file not found: {path}"
  | unreadable path reason => s!"Cannot read config file {path}: {reason}"
  | invalidDocument path diagnosis => s!"Invalid YAML in {path}: {diagnosis}"
  | notMapping path => s!"YAML must be a mapping: {path}"
  | noTemplate => "No template specified (set 'template' in templar.yaml or pass --template)"
  | other detail => detail

/-- What a file operation meets. -/
inductive FileFault where
  | missing
  | alreadyExists
  | notDirectory
  | isDirectory
  | nameTooLong
  | tooManyLinks
  deriving DecidableEq, Repr

def FileFault.number : FileFault → Nat
  | missing => 2
  | alreadyExists => 17
  | notDirectory => 20
  | isDirectory => 21
  | nameTooLong => 36
  | tooManyLinks => 40

def FileFault.detail : FileFault → String
  | missing => "No such file or directory"
  | alreadyExists => "File exists"
  | notDirectory => "Not a directory"
  | isDirectory => "Is a directory"
  | nameTooLong => "File name too long"
  | tooManyLinks => "Too many levels of symbolic links"

/-- Does the fault answer a question for a file with no? -/
def FileFault.isAbsence : FileFault → Bool
  | missing | notDirectory | tooManyLinks => true
  | _ => false

/-- Why no path without links can be made of a path. -/
inductive LinkFault where
  /-- A link leads back to itself. -/
  | loop (path : String)
  | tooNested
  deriving DecidableEq, Repr

def LinkFault.message : LinkFault → String
  | loop path => "Symlink loop from " ++ quote path
  | tooNested => "maximum recursion depth exceeded"

/-- What is too large for the machine. -/
inductive Excess where
  | index
  | length
  deriving DecidableEq, Repr

def Excess.detail : Excess → String
  | index => "cannot fit 'int' into an index-sized integer"
  | length => "repeated string is too long"

inductive Error where
  | malformed (m : Malformed)
  | tooDeep (limit : Int) (activity : String)
  | unsupported (feature : String) (detail : Option String)
  | notFound (path root reason : String)
  | cycle (path : String) (chain : List String)
  | evaluation (flaw : EvaluationFlaw) (expression : String)
  | stray (s : Stray)
  | config (flaw : ConfigFlaw)
  | depthNotPositive (limit : Int)
  | bindingWithoutValue (spec : String)
  | bindingWithoutName (spec : String)
  | nullInPath
  | undecodable (detail : String)
  | badData (fault : DataFault) (detail : String)
  | badBinding (name type : String)
  | incomparable (reason : Incomparable)
  | file (fault : FileFault) (path : String)
  | links (fault : LinkFault)
  | excessive (excess : Excess)
  deriving DecidableEq, Repr

namespace Error

def message : Error → String
  | malformed m => m.message
  | tooDeep limit activity => s!"Nesting depth limit of {limit} exceeded while {activity}"
  | unsupported feature detail =>
    let start := s!"Directive '{feature}' is not supported"
    match detail with
    | none | some "" => start
    | some detail => s!"{start}: {detail}"
  | notFound path root reason => s!"Template '{path}' could not be loaded from {root}: {reason}"
  | cycle path chain =>
    "Include cycle detected: " ++ String.intercalate " -> " (chain ++ [path])
  | evaluation flaw expression =>
    if expression = "" then flaw.detail
    else flaw.detail ++ " (expression: " ++ quote expression ++ ")"
  | stray s => s.detail
  | config flaw => flaw.detail
  | depthNotPositive limit => s!"max_depth must be positive, got {limit}"
  | bindingWithoutValue spec => s!"Invalid variable format '{spec}'. Expected 'NAME=VALUE'"
  | bindingWithoutName spec => s!"Invalid variable format '{spec}'. Variable name is empty"
  | nullInPath => "embedded null byte"
  | undecodable detail => detail
  | badData _ detail => detail
  | badBinding name type => s!"Variable '{name}' must be a string, got {type}"
  | incomparable reason => reason.detail
  | file fault path => s!"[Errno {fault.number}] {fault.detail}: {quote path}"
  | links fault => fault.message
  | excessive excess => excess.detail

/-- The faults that the command line reports in one line; any other ends the program. -/
def isUserFault : Error → Bool
  | badBinding .. | incomparable .. | file .. | links _ | excessive _ => false
  | stray s => s.fault == .badValue
  | badData fault _ => fault == .badValue
  | _ => true

end Error

end Stencil
