import Stencil.Decimal.Layout
import Stencil.Expr.Value
import Stencil.Text.Quoted

/-!
# Values as text

A value has a plain text, which joins with other text, and a literal, which stands inside the text of a
list or of another container. They differ for text alone: its literal is quoted.
-/
namespace Stencil.Expr

open Text (braced quote)
open Decimal (floatText plain)

/-- Integers with more digits than this have no text. -/
def digitLimit : Nat := 4300

def tooLongToShow : String :=
  "Exceeds the limit (4300 digits) for integer string conversion; "
    ++ "use sys.set_int_max_str_digits() to increase the limit"

def tooLongToRead (size : Nat) : String :=
  s!"Exceeds the limit (4300 digits) for integer string conversion: value has {size} digits; "
    ++ "use sys.set_int_max_str_digits() to increase the limit"

def intText (n : Int) : Result String :=
  if n.natAbs < Nat.pow 10 digitLimit then .ok (toString n) else valueError tooLongToShow

/-- A number of a complex one: without the point that says nothing. -/
def partText (x : Float) : String :=
  let s := floatText plain x
  if s.endsWith ".0" then (s.dropEnd 2).toString else s

def complexText (re im : Float) : String :=
  let imaginary := partText im ++ "j"
  if re == 0 && re.toBits == 0 then imaginary
  else
    let sign := if imaginary.startsWith "-" then "" else "+"
    "(" ++ partText re ++ sign ++ imaginary ++ ")"

namespace Value

mutual
def literal : Value → Result String
  | none => .ok "None"
  | bool b => .ok (if b then "True" else "False")
  | int n => intText n
  | float x => .ok (floatText plain x)
  | complex re im => .ok (complexText re im)
  | text s => .ok (quote s)
  | markup s => .ok ("Markup(" ++ quote s ++ ")")
  | list xs => do .ok ("[" ++ String.intercalate ", " (← literals xs) ++ "]")
  | tuple [x] => do .ok ("(" ++ (← literal x) ++ ",)")
  | tuple xs => do .ok ("(" ++ String.intercalate ", " (← literals xs) ++ ")")
  | dict entries => do .ok (braced (String.intercalate ", " (← entryLiterals entries)))
  | set [] => .ok "set()"
  | set xs => do .ok (braced (String.intercalate ", " (← literals xs)))
  | absent _ => .ok "Undefined"
  | method owner name _ => .ok s!"<built-in method {name} of {owner.typeName} object>"
  | formatter _ fromMapping =>
    let name := if fromMapping then "format_map" else "format"
    .ok s!"<function str.{name}>"
  | stream type .. => .ok s!"<{type} object>"
  | view .keys entries => do
    .ok ("dict_keys([" ++ String.intercalate ", " (← keyLiterals entries) ++ "])")
  | view .values entries => do
    .ok ("dict_values([" ++ String.intercalate ", " (← valueLiterals entries) ++ "])")
  | view .items entries => do
    .ok ("dict_items([" ++ String.intercalate ", " (← itemLiterals entries) ++ "])")
  | slice start stop step => do
    let a ← literal start
    let b ← literal stop
    let c ← literal step
    .ok s!"slice({a}, {b}, {c})"
  | template => .ok "<TemplateReference None>"

def literals : List Value → Result (List String)
  | [] => .ok []
  | x :: xs => do
    let s ← literal x
    .ok (s :: (← literals xs))

def entryLiterals : List (Value × Value) → Result (List String)
  | [] => .ok []
  | (k, v) :: rest => do
    let key ← literal k
    let value ← literal v
    .ok ((key ++ ": " ++ value) :: (← entryLiterals rest))

def keyLiterals : List (Value × Value) → Result (List String)
  | [] => .ok []
  | (k, _) :: rest => do
    let key ← literal k
    .ok (key :: (← keyLiterals rest))

def valueLiterals : List (Value × Value) → Result (List String)
  | [] => .ok []
  | (_, v) :: rest => do
    let value ← literal v
    .ok (value :: (← valueLiterals rest))

def itemLiterals : List (Value × Value) → Result (List String)
  | [] => .ok []
  | (k, v) :: rest => do
    let key ← literal k
    let value ← literal v
    .ok (("(" ++ key ++ ", " ++ value ++ ")") :: (← itemLiterals rest))
end

def toText : Value → Result String
  | text s | markup s => .ok s
  | absent a => if a.strict then .error a.failure else .ok ""
  | v => v.literal

/-- The value itself if it is text or markup, else its text. -/
def asText (v : Value) : Result Value := if v.isText then .ok v else return text (← v.toText)

end Value

end Stencil.Expr
