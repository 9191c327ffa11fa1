import Mathlib
import Stencil.Text.Quoted

/-!
# What quoted texts tell

An escape says by its second character how long it is, and the first quote says which quotes are escaped, so a
quoted text can be read from left to right. Main statements: different texts are quoted differently, and a
quoted text is one line.
-/
namespace Stencil.Text

/-! ### Code points in hexadecimal digits -/

def readHex (cs : List Char) : Nat := cs.foldl (fun n c => n * 16 + CharClass.digit c) 0

theorem digit_digitChar : ∀ d < 16, CharClass.digit (Nat.digitChar d) = d := by decide

theorem digitChar_ne_lineFeed : ∀ d < 16, Nat.digitChar d ≠ '\n' := by decide

theorem length_hexDigits (width n : Nat) : (hexDigits width n).length = width := by
  induction width generalizing n with
  | zero => rfl
  | succ width ih => simp [hexDigits, ih]

theorem readHex_hexDigits {width n : Nat} (h : n < 16 ^ width) : readHex (hexDigits width n) = n := by
  induction width generalizing n with
  | zero =>
    have hzero : n = 0 := by simpa using h
    rw [hzero]
    rfl
  | succ width ih =>
    have hdigit : n % 16 < 16 := Nat.mod_lt n (by decide)
    have hrest : n / 16 < 16 ^ width := by
      rw [pow_succ] at h
      omega
    have hread : readHex (hexDigits width (n / 16)) = n / 16 := ih hrest
    rw [hexDigits, readHex, List.foldl_append, ← readHex, hread, List.foldl_cons, List.foldl_nil,
      digit_digitChar _ hdigit]
    omega

theorem lineFeed_not_mem_hexDigits (width n : Nat) : '\n' ∉ hexDigits width n := by
  induction width generalizing n with
  | zero => simp [hexDigits]
  | succ width ih =>
    rw [hexDigits, List.mem_append, List.mem_singleton, not_or]
    exact ⟨ih _, (digitChar_ne_lineFeed _ (Nat.mod_lt n (by decide))).symm⟩

/-! ### Reading escapes -/

/-- The character whose code point the next `width` digits are, and what follows them. -/
def readCode (width : Nat) (cs : List Char) : Char × List Char :=
  (Char.ofNat (readHex (cs.take width)), cs.drop width)

/-- The character that comes first inside quotes, and what follows it. -/
def readQuoted : List Char → Option (Char × List Char)
  | '\\' :: 'n' :: rest => some ('\n', rest)
  | '\\' :: 'r' :: rest => some ('\r', rest)
  | '\\' :: 't' :: rest => some ('\t', rest)
  | '\\' :: 'x' :: rest => some (readCode 2 rest)
  | '\\' :: 'u' :: rest => some (readCode 4 rest)
  | '\\' :: 'U' :: rest => some (readCode 8 rest)
  | '\\' :: c :: rest => some (c, rest)
  | c :: rest => some (c, rest)
  | [] => none

theorem readCode_hexDigits (width : Nat) {c : Char} (h : c.toNat < 16 ^ width) (rest : List Char) :
    readCode width (hexDigits width c.toNat ++ rest) = (c, rest) := by
  have hlen := length_hexDigits width c.toNat
  rw [readCode, List.take_left' hlen, List.drop_left' hlen, readHex_hexDigits h, Char.ofNat_toNat]

/-- The quotes that texts stand in. -/
def IsQuote (q : Char) : Prop := q = '\'' ∨ q = '"'

theorem isQuote_quoteFor (cs : List Char) : IsQuote (quoteFor cs) := by
  unfold quoteFor
  split
  · exact .inr rfl
  · exact .inl rfl

section

variable {q : Char} (hq : IsQuote q)

include hq

/-- An escape is read as the character that it stands for, whatever follows it. -/
theorem readQuoted_escapeChar (c : Char) (rest : List Char) :
    readQuoted (escapeChar q c ++ rest) = some (c, rest) := by
  unfold escapeChar
  split_ifs with hself hn hr ht hprint hx hu
  · simp only [Bool.or_eq_true, decide_eq_true_eq] at hself
    rcases hself with rfl | rfl
    · rcases hq with rfl | rfl <;> rfl
    · rfl
  · rw [hn]
    rfl
  · rw [hr]
    rfl
  · rw [ht]
    rfl
  · simp only [Bool.or_eq_true, decide_eq_true_eq, not_or] at hself
    simp [readQuoted, hself.2]
  · exact congrArg some (readCode_hexDigits 2 hx rest)
  · exact congrArg some (readCode_hexDigits 4 hu rest)
  · have hvalid : c.toNat < 16 ^ 8 := c.val.toNat_lt
    exact congrArg some (readCode_hexDigits 8 hvalid rest)

theorem escapes_injective {cs ds : List Char} (h : cs.flatMap (escapeChar q) = ds.flatMap (escapeChar q)) :
    cs = ds := by
  induction cs generalizing ds with
  | nil =>
    cases ds with
    | nil => rfl
    | cons d ds =>
      have hread := congrArg readQuoted h
      rw [List.flatMap_cons, readQuoted_escapeChar hq] at hread
      cases hread
  | cons c cs ih =>
    have hread := congrArg readQuoted h
    rw [List.flatMap_cons, readQuoted_escapeChar hq] at hread
    cases ds with
    | nil => cases hread
    | cons d ds =>
      rw [List.flatMap_cons, readQuoted_escapeChar hq] at hread
      obtain ⟨rfl, hrest⟩ := Prod.ext_iff.1 (Option.some.inj hread)
      rw [ih hrest]

theorem lineFeed_not_mem_escapeChar (c : Char) : '\n' ∉ escapeChar q c := by
  have hquote : q ≠ '\n' := by rcases hq with rfl | rfl <;> decide
  unfold escapeChar
  split_ifs with hself hn hr ht hprint hx hu
  · simp only [Bool.or_eq_true, decide_eq_true_eq] at hself
    rcases hself with rfl | rfl
    · simp [hquote.symm]
    · decide
  · decide
  · decide
  · decide
  · simpa using Ne.symm hn
  · simp [lineFeed_not_mem_hexDigits]
  · simp [lineFeed_not_mem_hexDigits]
  · simp [lineFeed_not_mem_hexDigits]

end

/-! ### Quoted texts -/

theorem toList_quote (s : String) :
    (quote s).toList = quoteFor s.toList ::
      (s.toList.flatMap (escapeChar (quoteFor s.toList)) ++ [quoteFor s.toList]) := by
  rw [quote, String.toList_ofList, quoteChars]
  rfl

/-- A quoted text tells which text it is. -/
theorem quote_injective : Function.Injective quote := by
  intro s t h
  have hchars := congrArg String.toList h
  rw [toList_quote, toList_quote] at hchars
  obtain ⟨hquote, hbody⟩ := List.cons.inj hchars
  rw [← hquote] at hbody
  have hescapes := List.append_cancel_right hbody
  exact String.toList_inj.1 (escapes_injective (isQuote_quoteFor s.toList) hescapes)

theorem lineFeed_not_mem_quote (s : String) : '\n' ∉ (quote s).toList := by
  have hq := isQuote_quoteFor s.toList
  have hquote : quoteFor s.toList ≠ '\n' := by
    rcases hq with hq | hq <;> rw [hq] <;> decide
  rw [toList_quote, List.mem_cons, List.mem_append, List.mem_singleton, not_or, not_or]
  refine ⟨hquote.symm, fun hmem => ?_, hquote.symm⟩
  obtain ⟨c, -, hc⟩ := List.mem_flatMap.1 hmem
  exact lineFeed_not_mem_escapeChar hq c hc

end Stencil.Text
