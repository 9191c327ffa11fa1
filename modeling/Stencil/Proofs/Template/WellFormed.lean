import Stencil.Template.Block
import Stencil.Template.Header
import Stencil.Template.Token
import Stencil.Proofs.Template.Scanning

/-!
# Well-formed templates

The trees that template texts can spell: contents and arguments are trimmed and not empty, two texts never
stand side by side, the first word of a remark means nothing, and an inclusion has no body. With them the
headers that spell their directives.
-/
namespace Stencil.Template

open Header (Keyword)

/-! ### Well-formed parts -/

/-- An argument of a directive. -/
structure IsLine (s : String) : Prop where
  nonempty : s ≠ ""
  trimmed : Text.strip s = s
  oneLine : '\n' ∉ s.toList

/-- The content of a text. -/
structure IsContent (s : String) : Prop where
  nonempty : s ≠ ""
  trimmed : Text.strip s = s
  unmarked : Token.Unmarked s.toList

instance (s : String) : Decidable (IsLine s) :=
  decidable_of_iff (s ≠ "" ∧ Text.strip s = s ∧ '\n' ∉ s.toList)
    ⟨fun ⟨nonempty, trimmed, oneLine⟩ => ⟨nonempty, trimmed, oneLine⟩, fun h => ⟨h.1, h.2, h.3⟩⟩

instance (s : String) : Decidable (IsContent s) :=
  decidable_of_iff (s ≠ "" ∧ Text.strip s = s ∧ Token.Unmarked s.toList)
    ⟨fun ⟨nonempty, trimmed, unmarked⟩ => ⟨nonempty, trimmed, unmarked⟩, fun h => ⟨h.1, h.2, h.3⟩⟩

/-- An ASCII identifier. -/
structure IsName (s : String) : Prop where
  start : ∃ c cs, s.toList = c :: cs ∧ Header.isNameStart c = true
  chars : s.toList.all Header.isNameChar = true

/-- The words that choose a directive. -/
def reservedWords : List String := ["if", "ifelse", "else", "include", "transform"]

inductive Directive.WellFormed : Directive → Prop
  | group {header : String} (line : IsLine header) (free : (Header.split header).1 ∉ reservedWords) :
      (Directive.group header).WellFormed
  | guard {condition : String} (line : IsLine condition) : (Directive.guard condition).WellFormed
  | inclusion {path : String} (line : IsLine path) : (Directive.inclusion path).WellFormed
  | transform {name expression : String} (isName : IsName name) (line : IsLine expression) :
      (Directive.transform name expression).WellFormed

def startsWithText : List Block → Bool
  | .text _ :: _ => true
  | _ => false

/-- The sequences of blocks that a template text can spell. -/
inductive WellFormed : List Block → Prop
  | nil : WellFormed []
  | text {content : String} {others : List Block} (isContent : IsContent content)
      (apart : startsWithText others = false) (rest : WellFormed others) :
      WellFormed (.text content :: others)
  | directive {kind : Directive} {children others : List Block} (header : kind.WellFormed)
      (leaf : ∀ path, kind = .inclusion path → children = []) (body : WellFormed children)
      (rest : WellFormed others) : WellFormed (.directive kind children :: others)
  | choice {condition : String} {children otherwise others : List Block} (line : IsLine condition)
      (first : WellFormed children) (second : WellFormed otherwise) (rest : WellFormed others) :
      WellFormed (.choice condition children otherwise :: others)

namespace Block

mutual
/-- How deep directives nest in a block. The separator of a choice is one below the choice. -/
def nesting : Block → Nat
  | directive _ children => nestings children + 1
  | choice _ children otherwise => max 1 (max (nestings children) (nestings otherwise)) + 1
  | text _ | foreign _ => 0

/-- How deep directives nest in a sequence. -/
def nestings : List Block → Nat
  | [] => 0
  | b :: bs => max (nesting b) (nestings bs)
end

end Block

/-! ### Headers -/

theorem strip_eq_iff (s : String) : Text.strip s = s ↔ Text.trim s.toList = s.toList := by
  rw [Text.strip, ← String.toList_inj, String.toList_ofList]

theorem IsLine.toList_ne_nil {s : String} (h : IsLine s) : s.toList ≠ [] := by
  intro he
  exact h.nonempty (String.toList_inj.1 he)

theorem keyword?_eq_none_iff (word : String) : Header.keyword? word = none ↔ word ∉ reservedWords := by
  simp [Header.keyword?, Keyword.word, reservedWords, @eq_comm _ word]

theorem keyword?_word (k : Keyword) : Header.keyword? k.word = some k := by
  cases k <;> rfl

theorem isBlank_eq_false_of_isNameChar {c : Char} (h : Header.isNameChar c = true) :
    Text.isBlank c = false := by
  have hn : (48 ≤ c.toNat ∧ c.toNat ≤ 57) ∨ (65 ≤ c.toNat ∧ c.toNat ≤ 90) ∨ c.toNat = 95 ∨
      (97 ≤ c.toNat ∧ c.toNat ≤ 122) := by
    change ((decide (65 ≤ c.toNat ∧ c.toNat ≤ 90) || (decide (97 ≤ c.toNat) && decide (c.toNat ≤ 122)) ||
      (decide (48 ≤ c.toNat) && decide (c.toNat ≤ 57))) || c == '_') = true at h
    simp only [Bool.or_eq_true, Bool.and_eq_true, decide_eq_true_eq, beq_iff_eq] at h
    rcases h with ((⟨h₁, h₂⟩ | ⟨h₁, h₂⟩) | ⟨h₁, h₂⟩) | rfl
    · exact .inr (.inl ⟨h₁, h₂⟩)
    · exact .inr (.inr (.inr ⟨h₁, h₂⟩))
    · exact .inl ⟨h₁, h₂⟩
    · exact .inr (.inr (.inl rfl))
  simp only [Text.isBlank]
  rw [← Bool.not_eq_true]
  simp only [Bool.or_eq_true, Bool.and_eq_true, decide_eq_true_eq, beq_iff_eq]
  omega

theorem IsName.not_blank {name : String} (h : IsName name) : ∀ c ∈ name.toList, Text.isBlank c = false := by
  intro c hc
  exact isBlank_eq_false_of_isNameChar (List.all_eq_true.1 h.chars c hc)

/-- An argument stays one behind a piece of a line that begins with a character. -/
theorem IsLine.append {s argument : String} (h : IsLine argument) {c : Char} {cs : List Char}
    (hs : s.toList = c :: cs) (hc : Text.isBlank c = false) (hline : '\n' ∉ s.toList) :
    IsLine (s ++ argument) := by
  constructor
  · simp [h.nonempty]
  · rw [strip_eq_iff, String.toList_append, hs]
    exact Text.trim_append_of_trim_eq hc cs ((strip_eq_iff argument).1 h.trimmed) h.toList_ne_nil
  · rw [String.toList_append, List.mem_append, not_or]
    exact ⟨hline, h.oneLine⟩

theorem isLine_keyword (k : Keyword) {argument : String} (h : IsLine argument) :
    IsLine (k.word ++ " " ++ argument) := by
  have hstart : ∃ c cs, (k.word ++ " ").toList = c :: cs ∧ Text.isBlank c = false := by
    cases k <;> exact ⟨_, _, rfl, rfl⟩
  have hline : '\n' ∉ (k.word ++ " ").toList := by
    cases k <;> decide
  obtain ⟨c, cs, hs, hc⟩ := hstart
  exact h.append hs hc hline

theorem IsName.isLine_append {name expression : String} (hn : IsName name) (he : IsLine expression) :
    IsLine (name ++ ": " ++ expression) := by
  obtain ⟨c, cs, hs, -⟩ := hn.start
  have hstart : (name ++ ": ").toList = c :: (cs ++ [':', ' ']) := by simp [hs]
  have hline : '\n' ∉ (name ++ ": ").toList := by
    rw [String.toList_append, List.mem_append, not_or]
    refine ⟨fun hm => ?_, by decide⟩
    exact absurd (List.all_eq_true.1 hn.chars '\n' hm) (by decide)
  exact he.append hstart (hn.not_blank c (by simp [hs])) hline

end Stencil.Template
