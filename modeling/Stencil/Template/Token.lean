import Stencil.Error
import Stencil.Text.Blank
import Stencil.Text.Place

/-!
# Tokens of template text

An opening marker takes the rest of its line as a header, a closing marker stands alone, and everything
up to the next marker is a run of text. Tokens carry the place where they begin, and each takes at least
one character, so scanning ends.
-/
namespace Stencil.Template

open Text (Place)

inductive TokenKind where
  | text
  | opening
  | closing
  | finish
  deriving DecidableEq, Repr

def TokenKind.label : TokenKind → String
  | text => "TEXT"
  | opening => "DIRECTIVE_OPEN"
  | closing => "DIRECTIVE_CLOSE"
  | finish => "EOF"

/-- `value` is the text of a run, the trimmed header of an opening, and the marker of a closing. -/
structure Token where
  kind : TokenKind
  value : String
  place : Place
  deriving DecidableEq, Repr

namespace Token

def openMark : List Char := ['!', '!', '%']

def closeMark : List Char := ['%', '!', '!']

/-- Does a marker begin here? -/
def atMarker : List Char → Bool
  | '!' :: '!' :: '%' :: _ => true
  | '%' :: '!' :: '!' :: _ => true
  | _ => false

/-- The characters before the next marker. -/
def run : List Char → List Char
  | [] => []
  | c :: cs => if atMarker (c :: cs) then [] else c :: run cs

/-- What is left from the next marker on. -/
def afterRun : List Char → List Char
  | [] => []
  | c :: cs => if atMarker (c :: cs) then c :: cs else afterRun cs

theorem run_append (cs : List Char) : run cs ++ afterRun cs = cs := by
  induction cs with
  | nil => rfl
  | cons c cs ih =>
    unfold run afterRun
    split <;> simp [ih]

theorem length_afterRun_le (cs : List Char) : (afterRun cs).length ≤ cs.length := by
  have h := congrArg List.length (run_append cs)
  simp only [List.length_append] at h
  omega

/-- The line up to its line feed, and what follows that; nothing if no line feed comes. -/
def splitLine : List Char → Option (List Char × List Char)
  | [] => none
  | c :: cs => if c = '\n' then some ([], cs) else (splitLine cs).map fun (l, r) => (c :: l, r)

theorem splitLine_eq_some {cs line rest : List Char} (h : splitLine cs = some (line, rest)) :
    cs = line ++ '\n' :: rest := by
  induction cs generalizing line with
  | nil => simp [splitLine] at h
  | cons c cs ih =>
    unfold splitLine at h
    split at h
    · simp_all
    · obtain ⟨⟨l, r⟩, hl, he⟩ := Option.map_eq_some_iff.1 h
      simp only [Prod.mk.injEq] at he
      obtain ⟨rfl, rfl⟩ := he
      simp [ih hl]

/-- Adds a token in front of a scan that succeeds. -/
def followedBy (t : Token) : Except Malformed (List Token) → Except Malformed (List Token)
  | .ok ts => .ok (t :: ts)
  | .error e => .error e

/-- The tokens of the text `cs` that begins at `p`. -/
def scanFrom (p : Place) : List Char → Except Malformed (List Token)
  | [] => .ok [⟨.finish, "", p⟩]
  | '!' :: '!' :: '%' :: cs =>
    match _h : splitLine cs with
    | none =>
      .error ⟨.unterminatedHeader, p.line, p.column, String.ofList (openMark ++ cs)⟩
    | some (header, rest) =>
      followedBy ⟨.opening, String.ofList (Text.trim header), p⟩
        (scanFrom (p.advance (openMark ++ header ++ ['\n'])) rest)
  | '%' :: '!' :: '!' :: cs =>
    followedBy ⟨.closing, String.ofList closeMark, p⟩ (scanFrom (p.advance closeMark) cs)
  | c :: cs =>
    followedBy ⟨.text, String.ofList (c :: run cs), p⟩ (scanFrom (p.advance (c :: run cs)) (afterRun cs))
  termination_by cs => cs.length
  decreasing_by
    · have := congrArg List.length (splitLine_eq_some _h)
      simp only [List.length_append, List.length_cons] at this ⊢
      omega
    · simp only [List.length_cons]; omega
    · have := length_afterRun_le cs
      simp only [List.length_cons]; omega

/-- The tokens of a text; the last one marks its end. -/
def scan (text : String) : Except Malformed (List Token) := scanFrom Place.start text.toList

/-- A token in one line: kind, quoted value, line and column. -/
def describe (t : Token) : String :=
  s!"Token({t.kind.label}, " ++ Text.quote t.value ++ s!", {t.place.line}:{t.place.column})"

end Token

end Stencil.Template
