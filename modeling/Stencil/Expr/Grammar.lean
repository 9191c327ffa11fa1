import Stencil.Expr.Term
import Stencil.Expr.Token

/-!
# Reading terms

The grammar of expressions over tokens. From loosest to tightest: the conditional, `or`, `and`, `not`,
comparisons, sums, `~`, products, powers, signs, and what follows a term: attributes, items, calls,
filters and tests. All operators lean to the left, powers as well, and a sign binds tighter than a power.
Every function takes fuel, and twenty times the number of tokens is always enough.
-/
namespace Stencil.Expr

namespace Grammar

/-- A reader of terms: what it has not used yet, and the reason if it fails. -/
abbrev Reader := StateT Lexed (Except Refusal)

def fail {α : Type} (message : String) : Reader α := throw (.badSyntax message)

def current? : Reader (Option Token) := do
  return ((← get).lexemes.head?).map (·.token)

def line : Reader Nat := do
  return (((← get).lexemes.head?).map (·.line)).getD 1

/-- Fails if what comes next could not be read. -/
def touch (tokens : List Lexeme) : Reader Unit := do
  match tokens, (← get).flaw with
  | [], some refusal => throw refusal
  | _, _ => return ()

def advance : Reader Unit := do
  let rest := (← get).lexemes.drop 1
  touch rest
  modify fun s => { s with lexemes := rest }

/-- The token after the current one. -/
def next? : Reader (Option Token) := do
  let rest := (← get).lexemes.drop 1
  touch rest
  return rest.head?.map (·.token)

def isOperator (op : String) : Option Token → Bool
  | some (.operator s) => s == op
  | _ => false

def isWord (word : String) : Option Token → Bool
  | some (.name s) => s == word
  | _ => false

def atOperator (op : String) : Reader Bool := do return isOperator op (← current?)

def atWord (word : String) : Reader Bool := do return isWord word (← current?)

/-- Uses up a word if it comes next. -/
def skipWord (word : String) : Reader Bool := do
  if ← atWord word then
    advance
    return true
  else return false

def describe : Option Token → String
  | none => "end of template"
  | some t => t.describe

def unexpected {α : Type} : Reader α := do
  fail ("unexpected " ++ Text.quote (describe (← current?)))

/-- The message for a token that is not the one that has to come. -/
def notFound {α : Type} (wanted : String) : Reader α := do
  match ← current? with
  | none => fail s!"unexpected end of template, expected {Text.quote wanted}."
  | some t => fail s!"expected token {Text.quote wanted}, got {Text.quote t.describe}"

def expect (op : String) : Reader Unit := do
  if ← atOperator op then advance else notFound op

def expectName : Reader String := do
  match ← current? with
  | some (.name s) =>
    advance
    return s
  | _ => notFound "name"

def tooDeep {α : Type} : Reader α := fail "expression is nested too deeply"

/-- Names with dots between them. -/
def dottedName : Nat → String → Reader String
  | 0, _ => tooDeep
  | fuel + 1, name => do
    if ← atOperator "." then
      advance
      let more ← expectName
      dottedName fuel (name ++ "." ++ more)
    else return name

def comparison? : Option Token → Option Comparison
  | some (.operator "==") => some .eq
  | some (.operator "!=") => some .ne
  | some (.operator "<") => some (.ordered .lt)
  | some (.operator "<=") => some (.ordered .le)
  | some (.operator ">") => some (.ordered .gt)
  | some (.operator ">=") => some (.ordered .ge)
  | _ => none

def sum? : Option Token → Option Operation
  | some (.operator "+") => some .add
  | some (.operator "-") => some .sub
  | _ => none

def product? : Option Token → Option Operation
  | some (.operator "*") => some .mul
  | some (.operator "/") => some .div
  | some (.operator "//") => some .floorDiv
  | some (.operator "%") => some .mod
  | _ => none

/-- Texts that stand side by side are one. -/
def moreText : Nat → String → Reader String
  | 0, _ => tooDeep
  | fuel + 1, s => do
    match ← current? with
    | some (.text t) =>
      advance
      moreText fuel (s ++ t)
    | _ => return s

def badCall {α : Type} : Reader α := fail "invalid syntax for function call expression"

/-- A value that no argument may follow when another kind of argument has come. -/
def require (b : Bool) : Reader Unit := if b then return () else badCall

/-- Can the token begin the argument of a test that has no parentheses? -/
def beginsArgument : Option Token → Bool
  | some (.name s) => s != "else" && s != "or" && s != "and"
  | some (.text _) | some (.integer _) | some (.number _) => true
  | some (.operator s) => s == "(" || s == "[" || s == "\x7b"
  | _ => false

mutual
def conditional : Nat → Reader Term
  | 0 => tooDeep
  | fuel + 1 => do
    let start ← line
    let t ← disjunction fuel
    moreConditions fuel start t

def moreConditions : Nat → Nat → Term → Reader Term
  | 0, _, _ => tooDeep
  | fuel + 1, start, chosen => do
    if ← skipWord "if" then
      let condition ← disjunction fuel
      let otherwise ← if ← skipWord "else" then pure (some (← conditional fuel)) else pure none
      let start' ← line
      moreConditions fuel start' (.conditional condition chosen otherwise start)
    else return chosen

def disjunction : Nat → Reader Term
  | 0 => tooDeep
  | fuel + 1 => do
    let t ← conjunction fuel
    moreDisjuncts fuel t

def moreDisjuncts : Nat → Term → Reader Term
  | 0, _ => tooDeep
  | fuel + 1, left => do
    if ← skipWord "or" then
      let right ← conjunction fuel
      moreDisjuncts fuel (.disjunction left right)
    else return left

def conjunction : Nat → Reader Term
  | 0 => tooDeep
  | fuel + 1 => do
    let t ← negation fuel
    moreConjuncts fuel t

def moreConjuncts : Nat → Term → Reader Term
  | 0, _ => tooDeep
  | fuel + 1, left => do
    if ← skipWord "and" then
      let right ← negation fuel
      moreConjuncts fuel (.conjunction left right)
    else return left

def negation : Nat → Reader Term
  | 0 => tooDeep
  | fuel + 1 => do
    if ← skipWord "not" then return .negation (← negation fuel) else compared fuel

def compared : Nat → Reader Term
  | 0 => tooDeep
  | fuel + 1 => do
    let t ← sum fuel
    match ← moreComparisons fuel with
    | [] => return t
    | rest => return .compared t rest

def moreComparisons : Nat → Reader (List (Comparison × Term))
  | 0 => tooDeep
  | fuel + 1 => do
    let token ← current?
    match comparison? token with
    | some c =>
      advance
      let t ← sum fuel
      return (c, t) :: (← moreComparisons fuel)
    | none =>
      if isWord "in" token then
        advance
        let t ← sum fuel
        return (.isIn, t) :: (← moreComparisons fuel)
      else if isWord "not" token then
        if isWord "in" (← next?) then
          advance
          advance
          let t ← sum fuel
          return (.notIn, t) :: (← moreComparisons fuel)
        else return []
      else return []

def sum : Nat → Reader Term
  | 0 => tooDeep
  | fuel + 1 => do
    let t ← joined fuel
    moreSummands fuel t

def moreSummands : Nat → Term → Reader Term
  | 0, _ => tooDeep
  | fuel + 1, left => do
    match sum? (← current?) with
    | some op =>
      advance
      let right ← joined fuel
      moreSummands fuel (.arithmetic op left right)
    | none => return left

def joined : Nat → Reader Term
  | 0 => tooDeep
  | fuel + 1 => do
    let t ← product fuel
    match ← moreParts fuel with
    | [] => return t
    | rest => return .joined (t :: rest)

def moreParts : Nat → Reader (List Term)
  | 0 => tooDeep
  | fuel + 1 => do
    if ← atOperator "~" then
      advance
      let t ← product fuel
      return t :: (← moreParts fuel)
    else return []

def product : Nat → Reader Term
  | 0 => tooDeep
  | fuel + 1 => do
    let t ← power fuel
    moreFactors fuel t

def moreFactors : Nat → Term → Reader Term
  | 0, _ => tooDeep
  | fuel + 1, left => do
    match product? (← current?) with
    | some op =>
      advance
      let right ← power fuel
      moreFactors fuel (.arithmetic op left right)
    | none => return left

def power : Nat → Reader Term
  | 0 => tooDeep
  | fuel + 1 => do
    let t ← signed fuel true
    morePowers fuel t

def morePowers : Nat → Term → Reader Term
  | 0, _ => tooDeep
  | fuel + 1, left => do
    if ← atOperator "**" then
      advance
      let right ← signed fuel true
      morePowers fuel (.arithmetic .pow left right)
    else return left

def signed : Nat → Bool → Reader Term
  | 0, _ => tooDeep
  | fuel + 1, withFilters => do
    let token ← current?
    let t ← if isOperator "-" token then do
        advance
        pure (.sign .minus (← signed fuel false))
      else if isOperator "+" token then do
        advance
        pure (.sign .plus (← signed fuel false))
      else primary fuel
    let t ← postfixes fuel t
    if withFilters then filters fuel t else return t

def primary : Nat → Reader Term
  | 0 => tooDeep
  | fuel + 1 => do
    match ← current? with
    | some (.name s) =>
      advance
      if s == "true" || s == "True" then return .constant (.bool true)
      else if s == "false" || s == "False" then return .constant (.bool false)
      else if s == "none" || s == "None" then return .constant .none
      else return .name s
    | some (.text s) =>
      advance
      return .constant (.text (← moreText fuel s))
    | some (.integer n) =>
      advance
      return .constant (.int n)
    | some (.number x) =>
      advance
      return .constant (.float x)
    | some (.operator "(") =>
      advance
      let t ← parenthesized fuel
      expect ")"
      return t
    | some (.operator "[") =>
      advance
      let items ← elements fuel true
      expect "]"
      return .list items
    | some (.operator "\x7b") =>
      advance
      let entries ← entries fuel true
      expect "\x7d"
      return .dict entries
    | _ => unexpected

/-- A term, or a tuple: of nothing, or with commas. -/
def parenthesized : Nat → Reader Term
  | 0 => tooDeep
  | fuel + 1 => do
    if ← endsTuple then return .tuple []
    let t ← conditional fuel
    if ← atOperator "," then return .tuple (t :: (← moreMembers fuel)) else return t

def endsTuple : Reader Bool := do
  match ← current? with
  | some .close => return true
  | token => return isOperator ")" token

def moreMembers : Nat → Reader (List Term)
  | 0 => tooDeep
  | fuel + 1 => do
    expect ","
    if ← endsTuple then return []
    let t ← conditional fuel
    if ← atOperator "," then return t :: (← moreMembers fuel) else return [t]

/-- The items of a list; a comma may follow the last one. -/
def elements : Nat → Bool → Reader (List Term)
  | 0, _ => tooDeep
  | fuel + 1, isFirst => do
    if ← atOperator "]" then return []
    if !isFirst then expect ","
    if ← atOperator "]" then return []
    let t ← conditional fuel
    return t :: (← elements fuel false)

def entries : Nat → Bool → Reader (List (Term × Term))
  | 0, _ => tooDeep
  | fuel + 1, isFirst => do
    if ← atOperator "\x7d" then return []
    if !isFirst then expect ","
    if ← atOperator "\x7d" then return []
    let key ← conditional fuel
    expect ":"
    let value ← conditional fuel
    return (key, value) :: (← entries fuel false)

/-- Attributes, items and calls. -/
def postfixes : Nat → Term → Reader Term
  | 0, _ => tooDeep
  | fuel + 1, t => do
    let token ← current?
    if isOperator "." token then
      advance
      let part ← current?
      advance
      match part with
      | some (.name s) => postfixes fuel (.attribute t s)
      | some (.integer n) => postfixes fuel (.item t (.constant (.int n)))
      | _ => fail "expected name or number"
    else if isOperator "[" token then
      advance
      let keys ← subscripts fuel true
      expect "]"
      match keys with
      | [key] => postfixes fuel (.item t key)
      | keys => postfixes fuel (.item t (.tuple keys))
    else if isOperator "(" token then
      let passed ← passed fuel
      postfixes fuel (t.callOf passed)
    else return t

def subscripts : Nat → Bool → Reader (List Term)
  | 0, _ => tooDeep
  | fuel + 1, isFirst => do
    if ← atOperator "]" then return []
    if !isFirst then expect ","
    let t ← subscript fuel
    return t :: (← subscripts fuel false)

def subscript : Nat → Reader Term
  | 0 => tooDeep
  | fuel + 1 => do
    if ← atOperator ":" then
      advance
      sliceFrom fuel none
    else
      let t ← conditional fuel
      if ← atOperator ":" then
        advance
        sliceFrom fuel (some t)
      else return t

/-- The rest of a slice after its first colon. -/
def sliceFrom : Nat → Option Term → Reader Term
  | 0, _ => tooDeep
  | fuel + 1, start => do
    let token ← current?
    let stop ← if isOperator ":" token || isOperator "]" token || isOperator "," token then pure none
      else pure (some (← conditional fuel))
    if ← atOperator ":" then
      advance
      let token ← current?
      let step ← if isOperator "]" token || isOperator "," token then pure none
        else pure (some (← conditional fuel))
      return .slice start stop step
    else return .slice start stop none

/-- The arguments in parentheses. -/
def passed : Nat → Reader Passed
  | 0 => tooDeep
  | fuel + 1 => do
    expect "("
    let p ← arguments fuel true .nothing
    expect ")"
    return p

def arguments : Nat → Bool → Passed → Reader Passed
  | 0, _, _ => tooDeep
  | fuel + 1, isFirst, p => do
    if ← atOperator ")" then return p
    if !isFirst then expect ","
    let token ← current?
    if !isFirst && isOperator ")" token then return p
    if isOperator "*" token then
      require (p.rest.isNone && p.restNamed.isNone)
      advance
      let t ← conditional fuel
      arguments fuel false { p with rest := some t }
    else if isOperator "**" token then
      require p.restNamed.isNone
      advance
      let t ← conditional fuel
      arguments fuel false { p with restNamed := some t }
    else
      match token with
      | some (.name key) =>
        if isOperator "=" (← next?) then
          require p.restNamed.isNone
          advance
          advance
          let t ← conditional fuel
          arguments fuel false { p with named := p.named ++ [(key, t)] }
        else positionalArgument fuel p
      | _ => positionalArgument fuel p

def positionalArgument : Nat → Passed → Reader Passed
  | 0, _ => tooDeep
  | fuel + 1, p => do
    require (p.rest.isNone && p.restNamed.isNone && p.named.isEmpty)
    let t ← conditional fuel
    arguments fuel false { p with positional := p.positional ++ [t] }

/-- Filters, tests and calls after a term. -/
def filters : Nat → Term → Reader Term
  | 0, _ => tooDeep
  | fuel + 1, t => do
    let token ← current?
    if isOperator "|" token then
      advance
      let name ← dottedName fuel (← expectName)
      let p ← if ← atOperator "(" then passed fuel else pure .nothing
      filters fuel (t.filterOf name p)
    else if isWord "is" token then
      advance
      let negated ← skipWord "not"
      let name ← dottedName fuel (← expectName)
      let p ← testArguments fuel
      let asked := t.testOf name p
      filters fuel (if negated then .negation asked else asked)
    else if isOperator "(" token then
      let passed ← passed fuel
      filters fuel (t.callOf passed)
    else return t

/-- Arguments in parentheses, or one argument without. -/
def testArguments : Nat → Reader Passed
  | 0 => tooDeep
  | fuel + 1 => do
    let token ← current?
    if isOperator "(" token then passed fuel
    else if beginsArgument token then
      if isWord "is" token then fail "You cannot chain multiple tests with is"
      let t ← primary fuel
      let t ← postfixes fuel t
      return { Passed.nothing with positional := [t] }
    else return .nothing
end

/-- A term that takes all the tokens. -/
def whole (fuel : Nat) : Reader Term := do
  touch (← get).lexemes
  let t ← conditional fuel
  match ← current? with
  | none => return t
  | some _ => fail "chunk after expression"

end Grammar

/-- Reads an expression, or says why it cannot be read. -/
def Term.read (s : String) : Except Refusal Term := do
  let lexed := Token.scan s
  return (← (Grammar.whole (20 * (lexed.lexemes.length + 2))).run lexed).1

end Stencil.Expr
