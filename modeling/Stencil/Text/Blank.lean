/-!
# Blank characters

The characters that separate words, and cutting them off at the ends of a text. A cut text begins and
ends with a character that is not blank, and cutting twice is cutting once.
-/
namespace Stencil.Text

/-- Spaces, tabulators, line ends and the four information separators. -/
def isBlank (c : Char) : Bool :=
  let n := c.toNat
  (0x09 ≤ n && n ≤ 0x0D) || (0x1C ≤ n && n ≤ 0x20) || n == 0x85 || n == 0xA0 || n == 0x1680 ||
    (0x2000 ≤ n && n ≤ 0x200A) || n == 0x2028 || n == 0x2029 || n == 0x202F || n == 0x205F ||
    n == 0x3000

def trimStart (cs : List Char) : List Char := cs.dropWhile isBlank

/-- Drops the blanks at the end. -/
def trimEnd : List Char → List Char
  | [] => []
  | c :: cs =>
    match trimEnd cs with
    | [] => if isBlank c then [] else [c]
    | d :: ds => c :: d :: ds

def trim (cs : List Char) : List Char := trimEnd (trimStart cs)

/-- The text without the blanks at its two ends. -/
def strip (s : String) : String := String.ofList (trim s.toList)

def isBlankText (s : String) : Bool := s.toList.all isBlank

/-- The longest piece without blanks at the head, and what follows it. -/
def spanWord (cs : List Char) : List Char × List Char :=
  (cs.takeWhile (!isBlank ·), cs.dropWhile (!isBlank ·))

theorem spanWord_append (cs : List Char) : (spanWord cs).1 ++ (spanWord cs).2 = cs := by
  simp [spanWord]

/-- A piece of one class ends where a character follows that is not of the class, or nothing. -/
theorem takeWhile_dropWhile_append {p : Char → Bool} {piece rest : List Char} (inside : ∀ c ∈ piece, p c = true)
    (outside : ∀ c ∈ rest.head?, p c = false) :
    (piece ++ rest).takeWhile p = piece ∧ (piece ++ rest).dropWhile p = rest := by
  rw [List.takeWhile_append_of_pos inside, List.dropWhile_append_of_pos inside]
  cases rest with
  | nil => simp
  | cons c rest =>
    have hc : p c = false := outside c rfl
    simp [hc]

theorem spanWord_of_append {word rest : List Char} (solid : ∀ c ∈ word, isBlank c = false)
    (maximal : ∀ c ∈ rest.head?, isBlank c = true) : spanWord (word ++ rest) = (word, rest) := by
  have inside : ∀ c ∈ word, (!isBlank c) = true := by simpa using solid
  have outside : ∀ c ∈ rest.head?, (!isBlank c) = false := by simpa using maximal
  obtain ⟨htake, hdrop⟩ := takeWhile_dropWhile_append inside outside
  rw [spanWord, htake, hdrop]

theorem not_blank_of_mem_spanWord {cs : List Char} : ∀ c ∈ (spanWord cs).1, isBlank c = false := by
  intro c hc
  have hall : (cs.takeWhile (!isBlank ·)).all (!isBlank ·) = true := List.all_takeWhile
  simpa using List.all_eq_true.1 hall c hc

theorem isBlank_of_mem_head?_spanWord {cs : List Char} : ∀ c ∈ (spanWord cs).2.head?, isBlank c = true := by
  intro c hc
  have hstop := List.head?_dropWhile_not (!isBlank ·) cs
  rw [spanWord, Option.mem_def] at hc
  rw [hc] at hstop
  simpa using hstop

theorem trimStart_idem (cs : List Char) : trimStart (trimStart cs) = trimStart cs := by
  induction cs with
  | nil => rfl
  | cons c cs ih =>
    unfold trimStart at *
    by_cases h : isBlank c <;> simp [h, ih]

theorem trimEnd_idem (cs : List Char) : trimEnd (trimEnd cs) = trimEnd cs := by
  induction cs with
  | nil => rfl
  | cons c cs ih =>
    rw [trimEnd]
    split
    · split
      · rfl
      · rename_i h
        simp [trimEnd, h]
    · rename_i d ds h
      rw [h] at ih
      rw [trimEnd, ih]

theorem trimEnd_eq_nil_iff (cs : List Char) : trimEnd cs = [] ↔ ∀ c ∈ cs, isBlank c = true := by
  induction cs with
  | nil => simp [trimEnd]
  | cons c cs ih =>
    rw [trimEnd, List.forall_mem_cons, ← ih]
    split
    · rename_i h
      by_cases hc : isBlank c = true <;> simp [h, hc]
    · rename_i h
      simp [h]

/-- Blanks behind a text do not change what is left of it. -/
theorem trimEnd_append_blank (cs : List Char) {b : List Char} (hb : ∀ c ∈ b, isBlank c = true) :
    trimEnd (cs ++ b) = trimEnd cs := by
  induction cs with
  | nil => exact (trimEnd_eq_nil_iff b).2 hb
  | cons c cs ih => rw [List.cons_append, trimEnd, ih, trimEnd]

theorem trimEnd_append_of_ne_nil (a : List Char) {b : List Char} (hb : trimEnd b ≠ []) :
    trimEnd (a ++ b) = a ++ trimEnd b := by
  induction a with
  | nil => rfl
  | cons c a ih =>
    rw [List.cons_append, trimEnd, ih, List.cons_append]
    split
    · rename_i h
      simp_all
    · rename_i h
      simp [h]

theorem trimStart_append_blank {a : List Char} (ha : ∀ c ∈ a, isBlank c = true) (cs : List Char) :
    trimStart (a ++ cs) = trimStart cs := List.dropWhile_append_of_pos ha

theorem trimStart_cons_of_not_blank {c : Char} (hc : isBlank c = false) (cs : List Char) :
    trimStart (c :: cs) = c :: cs := by
  simp [trimStart, hc]

theorem trim_cons_of_blank {c : Char} (hc : isBlank c = true) (cs : List Char) :
    trim (c :: cs) = trim cs := by
  simp [trim, trimStart, hc]

theorem trim_append_blank (cs : List Char) {b : List Char} (hb : ∀ c ∈ b, isBlank c = true) :
    trim (cs ++ b) = trim cs := by
  induction cs with
  | nil =>
    rw [List.nil_append, trim, ← List.append_nil b, trimStart_append_blank hb]
    rfl
  | cons c cs ih =>
    by_cases hc : isBlank c = true
    · rw [List.cons_append, trim_cons_of_blank hc, trim_cons_of_blank hc, ih]
    · simp only [Bool.not_eq_true] at hc
      rw [List.cons_append, trim, trimStart_cons_of_not_blank hc, trim, trimStart_cons_of_not_blank hc,
        ← List.cons_append, trimEnd_append_blank _ hb]

/-- Blanks around a text are cut off. -/
theorem trim_between_blanks {a b : List Char} (ha : ∀ c ∈ a, isBlank c = true) (cs : List Char)
    (hb : ∀ c ∈ b, isBlank c = true) : trim (a ++ cs ++ b) = trim cs := by
  rw [trim_append_blank _ hb, trim, trimStart_append_blank ha, trim]

theorem trim_append_of_blank {a : List Char} (ha : ∀ c ∈ a, isBlank c = true) (cs : List Char) :
    trim (a ++ cs) = trim cs := by
  rw [trim, trimStart_append_blank ha, trim]

theorem trim_eq_nil_iff (cs : List Char) : trim cs = [] ↔ ∀ c ∈ cs, isBlank c = true := by
  induction cs with
  | nil => simp [trim, trimStart, trimEnd]
  | cons c cs ih =>
    cases hc : isBlank c with
    | true => rw [trim_cons_of_blank hc, ih, List.forall_mem_cons, hc, eq_self, true_and]
    | false =>
      rw [trim, trimStart_cons_of_not_blank hc, trimEnd_eq_nil_iff]

theorem isBlankText_eq_false_iff (s : String) : isBlankText s = false ↔ trim s.toList ≠ [] := by
  rw [← Bool.not_eq_true, isBlankText, List.all_eq_true, ne_eq, trim_eq_nil_iff]

/-- What is not all blank has blanks in front of a first character that is not. -/
theorem exists_blanks_append {cs : List Char} (h : trim cs ≠ []) :
    ∃ blanks d others, (∀ c ∈ blanks, isBlank c = true) ∧ isBlank d = false ∧ cs = blanks ++ d :: others := by
  induction cs with
  | nil => exact absurd rfl h
  | cons c cs ih =>
    cases hc : isBlank c with
    | false => exact ⟨[], c, cs, by simp, hc, rfl⟩
    | true =>
      rw [trim_cons_of_blank hc] at h
      obtain ⟨blanks, d, others, hblanks, hd, rfl⟩ := ih h
      exact ⟨c :: blanks, d, others, List.forall_mem_cons.2 ⟨hc, hblanks⟩, hd, rfl⟩

theorem trimEnd_prefix_self (cs : List Char) : trimEnd cs <+: cs := by
  induction cs with
  | nil => exact List.prefix_rfl
  | cons c cs ih =>
    rw [trimEnd]
    split
    · split <;> simp
    · rename_i h
      rw [h] at ih
      exact (List.prefix_cons_inj c).2 ih

/-- Only blanks are dropped at the end. -/
theorem exists_trimEnd_append (cs : List Char) :
    ∃ blanks, (∀ c ∈ blanks, isBlank c = true) ∧ cs = trimEnd cs ++ blanks := by
  induction cs with
  | nil => exact ⟨[], by simp, rfl⟩
  | cons c cs ih =>
    obtain ⟨blanks, hblanks, hcs⟩ := ih
    rw [trimEnd]
    split
    · rename_i hnil
      have hall : ∀ d ∈ cs, isBlank d = true := (trimEnd_eq_nil_iff cs).1 hnil
      split
      · rename_i hc
        exact ⟨c :: cs, List.forall_mem_cons.2 ⟨hc, hall⟩, rfl⟩
      · exact ⟨cs, hall, rfl⟩
    · rename_i hfront
      rw [hfront] at hcs
      exact ⟨blanks, hblanks, congrArg (c :: ·) hcs⟩

theorem trimEnd_eq_self_of_not_blank {cs : List Char} (h : ∀ c ∈ cs, isBlank c = false) : trimEnd cs = cs := by
  induction cs with
  | nil => rfl
  | cons c cs ih =>
    rw [List.forall_mem_cons] at h
    rw [trimEnd, ih h.2]
    cases cs with
    | nil => simp [h.1]
    | cons d cs => rfl

/-- The front of a text without blanks at its start has none there either. -/
theorem trimStart_eq_of_prefix {a b : List Char} (h : a <+: b) (hb : trimStart b = b) :
    trimStart a = a := by
  cases a with
  | nil => rfl
  | cons c a =>
    obtain ⟨rest, rfl⟩ := h
    cases hc : isBlank c with
    | false => exact trimStart_cons_of_not_blank hc a
    | true =>
      have hshorter : (trimStart (c :: (a ++ rest))).length ≤ (a ++ rest).length := by
        rw [trimStart, List.dropWhile_cons_of_pos hc]
        exact (List.dropWhile_suffix isBlank).length_le
      rw [← List.cons_append, hb] at hshorter
      exact absurd hshorter (by simp)

theorem trim_infix (cs : List Char) : trim cs <:+: cs :=
  (trimEnd_prefix_self _).isInfix.trans (List.dropWhile_suffix isBlank).isInfix

/-- Trimming twice is trimming once. -/
theorem trim_idem (cs : List Char) : trim (trim cs) = trim cs := by
  have hstart : trimStart (trim cs) = trim cs :=
    trimStart_eq_of_prefix (trimEnd_prefix_self _) (trimStart_idem cs)
  calc trim (trim cs) = trimEnd (trim cs) := congrArg trimEnd hstart
    _ = trim cs := trimEnd_idem _

/-- A trimmed text is trimmed at each end. -/
theorem trimStart_eq_of_trim_eq {cs : List Char} (h : trim cs = cs) : trimStart cs = cs := by
  apply (List.dropWhile_suffix isBlank).eq_of_length_le
  calc cs.length = (trim cs).length := by rw [h]
    _ ≤ (trimStart cs).length := (trimEnd_prefix_self _).length_le

theorem trimEnd_eq_of_trim_eq {cs : List Char} (h : trim cs = cs) : trimEnd cs = cs := by
  have hs := trimStart_eq_of_trim_eq h
  rwa [trim, hs] at h

/-- Whatever stands before a trimmed text, the end stays as it is. -/
theorem trim_append_of_trim_eq {c : Char} (hc : isBlank c = false) (cs : List Char) {b : List Char}
    (hb : trim b = b) (hne : b ≠ []) : trim (c :: cs ++ b) = c :: cs ++ b := by
  have he := trimEnd_eq_of_trim_eq hb
  rw [List.cons_append, trim, trimStart_cons_of_not_blank hc, ← List.cons_append,
    trimEnd_append_of_ne_nil _ (by rwa [he]), he]

end Stencil.Text
