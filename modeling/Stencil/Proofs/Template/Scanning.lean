import Stencil.Template.Token

/-!
# What the scanner makes of a piece of text

One equation for each kind of token, with the text that the token takes in front and anything behind it.
A line without markers ends before the next marker wherever that is, as no marker has a line feed.
-/
namespace Stencil.Template.Token

open Text (Place)

/-! ### Markers -/

theorem atMarker_iff (cs : List Char) : atMarker cs = true ↔ openMark <+: cs ∨ closeMark <+: cs := by
  unfold atMarker openMark closeMark
  split
  · simp
  · simp
  · rename_i hopen hclose
    simp only [Bool.false_eq_true, false_iff, not_or]
    constructor
    · rintro ⟨rest, rfl⟩
      exact hopen rest rfl
    · rintro ⟨rest, rfl⟩
      exact hclose rest rfl

/-- A text in which no marker begins. -/
structure Unmarked (cs : List Char) : Prop where
  opening : ¬ openMark <:+: cs
  closing : ¬ closeMark <:+: cs

theorem Unmarked.nil : Unmarked [] := ⟨by simp [openMark], by simp [closeMark]⟩

theorem unmarked_cons_iff (c : Char) (cs : List Char) :
    Unmarked (c :: cs) ↔ atMarker (c :: cs) = false ∧ Unmarked cs := by
  rw [← Bool.not_eq_true, atMarker_iff]
  constructor
  · intro h
    have hopen := h.opening
    have hclose := h.closing
    rw [List.infix_cons_iff, not_or] at hopen hclose
    exact ⟨not_or.2 ⟨hopen.1, hclose.1⟩, hopen.2, hclose.2⟩
  · rintro ⟨h, hopen, hclose⟩
    rw [not_or] at h
    constructor
    · rw [List.infix_cons_iff, not_or]
      exact ⟨h.1, hopen⟩
    · rw [List.infix_cons_iff, not_or]
      exact ⟨h.2, hclose⟩

theorem Unmarked.lineFeed {cs : List Char} (h : Unmarked cs) : Unmarked ('\n' :: cs) :=
  (unmarked_cons_iff '\n' cs).2 ⟨rfl, h⟩

/-- A text is unmarked if it is a run up to its end. -/
theorem run_eq_self_iff (cs : List Char) : run cs = cs ↔ Unmarked cs := by
  induction cs with
  | nil => simp [run, Unmarked.nil]
  | cons c cs ih =>
    rw [unmarked_cons_iff, ← ih, run]
    cases atMarker (c :: cs) <;> simp

instance (cs : List Char) : Decidable (Unmarked cs) := decidable_of_iff _ (run_eq_self_iff cs)

theorem Unmarked.atMarker_eq_false {cs : List Char} (h : Unmarked cs) : atMarker cs = false := by
  cases cs with
  | nil => rfl
  | cons c cs => exact ((unmarked_cons_iff c cs).1 h).1

theorem prefix_append_cons_iff {mark cs rest : List Char} {c : Char} (hc : c ∉ mark) :
    mark <+: cs ++ c :: rest ↔ mark <+: cs := by
  induction mark generalizing cs with
  | nil => simp
  | cons m mark ih =>
    rw [List.mem_cons, not_or] at hc
    cases cs with
    | nil => simp [List.cons_prefix_cons, Ne.symm hc.1]
    | cons d cs => rw [List.cons_append, List.cons_prefix_cons, List.cons_prefix_cons, ih hc.2]

theorem atMarker_append_lineFeed (cs rest : List Char) :
    atMarker (cs ++ '\n' :: rest) = atMarker cs := by
  rw [Bool.eq_iff_iff, atMarker_iff, atMarker_iff, prefix_append_cons_iff (by simp [openMark]),
    prefix_append_cons_iff (by simp [closeMark])]

/-! ### Runs of text -/

/-- A run of text ends here: with a marker, or with the text. -/
def RunEnds (cs : List Char) : Prop := cs = [] ∨ atMarker cs = true

theorem RunEnds.run_eq_nil {cs : List Char} (h : RunEnds cs) : run cs = [] := by
  cases cs with
  | nil => rfl
  | cons c cs => simpa [run, RunEnds] using h

theorem runEnds_openMark (cs : List Char) : RunEnds (openMark ++ cs) := .inr rfl

theorem runEnds_closeMark (cs : List Char) : RunEnds (closeMark ++ cs) := .inr rfl

theorem run_line {cs rest : List Char} (h : Unmarked cs) (ends : RunEnds rest) :
    run (cs ++ '\n' :: rest) = cs ++ ['\n'] := by
  induction cs with
  | nil => simp [run, atMarker, ends.run_eq_nil]
  | cons c cs ih =>
    have hm : atMarker (c :: (cs ++ '\n' :: rest)) = false :=
      (atMarker_append_lineFeed (c :: cs) rest).trans h.atMarker_eq_false
    simp [run, hm, ih ((unmarked_cons_iff c cs).1 h).2]

theorem afterRun_line {cs rest : List Char} (h : Unmarked cs) (ends : RunEnds rest) :
    afterRun (cs ++ '\n' :: rest) = rest := by
  have := run_append (cs ++ '\n' :: rest)
  rw [run_line h ends] at this
  simpa using this

/-! ### Tokens at the head of a text -/

theorem scanFrom_run (p : Place) {cs : List Char} (hne : cs ≠ []) (hm : atMarker cs = false) :
    scanFrom p cs = followedBy ⟨.text, String.ofList (run cs), p⟩
      (scanFrom (p.advance (run cs)) (afterRun cs)) := by
  cases cs with
  | nil => contradiction
  | cons c cs =>
    rw [scanFrom, run, afterRun, hm]
    · rfl
    · rintro rest rfl rfl
      cases hm
    · rintro rest rfl rfl
      cases hm

/-- An unmarked text and its line feed are one token. -/
theorem scanFrom_line (p : Place) {cs rest : List Char} (h : Unmarked cs) (ends : RunEnds rest) :
    scanFrom p (cs ++ '\n' :: rest) = followedBy ⟨.text, String.ofList (cs ++ ['\n']), p⟩
      (scanFrom (p.advance (cs ++ ['\n'])) rest) := by
  have hm := (atMarker_append_lineFeed cs rest).trans h.atMarker_eq_false
  rw [scanFrom_run p (by simp) hm, run_line h ends, afterRun_line h ends]

theorem splitLine_append {line : List Char} (h : '\n' ∉ line) (rest : List Char) :
    splitLine (line ++ '\n' :: rest) = some (line, rest) := by
  induction line with
  | nil => simp [splitLine]
  | cons c line ih =>
    rw [List.mem_cons, not_or] at h
    simp [splitLine, Ne.symm h.1, ih h.2]

theorem scanFrom_opening (p : Place) {header : List Char} (h : '\n' ∉ header) (rest : List Char) :
    scanFrom p (openMark ++ (header ++ '\n' :: rest))
      = followedBy ⟨.opening, String.ofList (Text.trim header), p⟩
        (scanFrom (p.advance (openMark ++ header ++ ['\n'])) rest) := by
  unfold openMark
  rw [List.cons_append, List.cons_append, List.cons_append, List.nil_append, scanFrom]
  split
  · rename_i hs
    simp [splitLine_append h] at hs
  · rename_i hs
    rw [splitLine_append h, Option.some.injEq, Prod.mk.injEq] at hs
    obtain ⟨rfl, rfl⟩ := hs
    rfl

theorem scanFrom_closing (p : Place) (rest : List Char) :
    scanFrom p (closeMark ++ rest)
      = followedBy ⟨.closing, String.ofList closeMark, p⟩ (scanFrom (p.advance closeMark) rest) := by
  unfold closeMark
  rw [List.cons_append, List.cons_append, List.cons_append, List.nil_append, scanFrom]
  rfl

end Stencil.Template.Token
