import Stencil.Proofs.Template.WellFormed

/-!
# Cutting headers

A header is taken apart at its first blank, and the argument of a transform at its first colon. The two cuts are
described here without saying how they are found, and each of them leaves no choice. Main statements: splitting
a header is cutting it, and splitting an argument is cutting it, so that it fails where there is no cut.
-/
namespace Stencil.Template

namespace Header

open Text (isBlank trim trimStart trimEnd)

/-! ### Words -/

/-- A header is cut at its first blank, and what follows is trimmed. If it begins with a blank, or is empty, it
stays whole. -/
inductive CutAtBlank (header : String) : String → String → Prop
  | whole (start : ∀ c ∈ header.toList.head?, isBlank c = true) : CutAtBlank header header ""
  | cut {word rest : String} (whole : header = word ++ rest) (nonempty : word ≠ "")
      (solid : ∀ c ∈ word.toList, isBlank c = false) (maximal : ∀ c ∈ rest.toList.head?, isBlank c = true) :
      CutAtBlank header word (Text.strip rest)

theorem split_of_append {header : String} {word rest : List Char} (whole : header.toList = word ++ rest)
    (nonempty : word ≠ []) (solid : ∀ c ∈ word, isBlank c = false)
    (maximal : ∀ c ∈ rest.head?, isBlank c = true) :
    split header = (String.ofList word, String.ofList (trim rest)) := by
  rw [split, whole, Text.spanWord_of_append solid maximal]
  cases word with
  | nil => exact absurd rfl nonempty
  | cons c word => rfl

theorem split_of_blank {header : String} (start : ∀ c ∈ header.toList.head?, isBlank c = true) :
    split header = (header, "") := by
  have hspan : Text.spanWord ([] ++ header.toList) = ([], header.toList) :=
    Text.spanWord_of_append (by simp) start
  rw [split, ← List.nil_append header.toList, hspan]

/-- A header that does not begin with a blank has a first word. -/
theorem exists_word {header : String} (start : ¬∀ c ∈ header.toList.head?, isBlank c = true) :
    ∃ word rest, header.toList = word ++ rest ∧ word ≠ [] ∧ (∀ c ∈ word, isBlank c = false) ∧
      ∀ c ∈ rest.head?, isBlank c = true := by
  have whole := Text.spanWord_append header.toList
  refine ⟨_, _, whole.symm, ?_, Text.not_blank_of_mem_spanWord, Text.isBlank_of_mem_head?_spanWord⟩
  intro hnil
  apply start
  rw [hnil, List.nil_append] at whole
  rw [← whole]
  exact Text.isBlank_of_mem_head?_spanWord

/-- Splitting a header is cutting it. -/
theorem split_eq_iff {header word argument : String} :
    split header = (word, argument) ↔ CutAtBlank header word argument := by
  constructor
  · intro h
    by_cases start : ∀ c ∈ header.toList.head?, isBlank c = true
    · rw [split_of_blank start] at h
      cases h
      exact .whole start
    · obtain ⟨letters, rest, whole, nonempty, solid, maximal⟩ := exists_word start
      rw [split_of_append whole nonempty solid maximal] at h
      cases h
      have hcut : CutAtBlank header (String.ofList letters) (Text.strip (String.ofList rest)) := by
        apply CutAtBlank.cut
        · rw [← String.toList_inj, String.toList_append, String.toList_ofList, String.toList_ofList, whole]
        · simpa using nonempty
        · rwa [String.toList_ofList]
        · rwa [String.toList_ofList]
      rwa [Text.strip, String.toList_ofList] at hcut
  · intro h
    cases h with
    | whole start => exact split_of_blank start
    | cut whole nonempty solid maximal =>
      have happend := congrArg String.toList whole
      rw [String.toList_append] at happend
      rw [split_of_append happend (by simpa using nonempty) solid maximal, String.ofList_toList, Text.strip]

/-! ### Names and expressions -/

/-- An argument is cut at its first colon. What is in front of it, less the blanks at its end, is a name, and
what follows it is not blank; both are trimmed. -/
inductive CutAtColon (argument : String) : String → String → Prop
  | cut {before after : String} (whole : argument = before ++ ":" ++ after) (first : ':' ∉ before.toList)
      (isName : IsName (String.ofList (trimEnd before.toList))) (present : Text.isBlankText after = false) :
      CutAtColon argument (Text.strip before) (Text.strip after)

/-- A name, blanks, a colon, and something that is not blank. -/
structure LaidOut (argument name : String) (rest : List Char) : Prop where
  whole : ∃ blanks, (∀ c ∈ blanks, isBlank c = true) ∧ argument.toList = name.toList ++ (blanks ++ ':' :: rest)
  isName : IsName name
  present : trim rest ≠ []

theorem isNameChar_eq_false_of_isBlank {c : Char} (h : isBlank c = true) : isNameChar c = false := by
  cases hc : isNameChar c with
  | false => rfl
  | true =>
    rw [isBlank_eq_false_of_isNameChar hc] at h
    cases h

theorem LaidOut.splitTransform_eq {argument name : String} {rest : List Char} (h : LaidOut argument name rest) :
    splitTransform argument = some (name, String.ofList (trim rest)) := by
  obtain ⟨blanks, hblanks, whole⟩ := h.whole
  obtain ⟨c, letters, hname, hc⟩ := h.isName.start
  -- A blank or the colon follows the name, and neither of them could be part of it.
  have outside : ∀ d ∈ (blanks ++ ':' :: rest).head?, isNameChar d = false := by
    cases blanks with
    | nil =>
      rintro d ⟨⟩
      decide
    | cons b blanks =>
      rintro d ⟨⟩
      exact isNameChar_eq_false_of_isBlank (hblanks b List.mem_cons_self)
  obtain ⟨htake, hdrop⟩ := Text.takeWhile_dropWhile_append (List.all_eq_true.1 h.isName.chars) outside
  have hcolon : trimStart (blanks ++ ':' :: rest) = ':' :: rest := by
    rw [Text.trimStart_append_blank hblanks, Text.trimStart_cons_of_not_blank (by decide)]
  have hletters : String.ofList (c :: letters) = name := by rw [← hname, String.ofList_toList]
  unfold splitTransform
  rw [whole]
  dsimp only
  rw [htake, hdrop, hcolon, hname]
  simp [hc, h.present, hletters]

theorem laidOut_of_splitTransform {argument name expression : String}
    (h : splitTransform argument = some (name, expression)) :
    ∃ rest, LaidOut argument name rest ∧ expression = String.ofList (trim rest) := by
  unfold splitTransform at h
  dsimp only at h
  split at h
  · rename_i c cs rest hname hrest
    split at h
    · rename_i hparts
      cases h
      rw [Bool.and_eq_true] at hparts
      obtain ⟨hstart, hexpression⟩ := hparts
      have hblanks : ∀ d ∈ (argument.toList.dropWhile isNameChar).takeWhile isBlank, isBlank d = true :=
        List.all_eq_true.1 List.all_takeWhile
      have hbehind : (argument.toList.dropWhile isNameChar).takeWhile isBlank ++ ':' :: rest
          = argument.toList.dropWhile isNameChar := by
        rw [← hrest, trimStart, List.takeWhile_append_dropWhile]
      refine ⟨rest, ⟨⟨_, hblanks, ?_⟩, ⟨⟨c, cs, ?_, hstart⟩, ?_⟩, ?_⟩, rfl⟩
      · rw [String.toList_ofList, hbehind, List.takeWhile_append_dropWhile]
      · rw [hname, String.toList_ofList]
      · rw [String.toList_ofList]
        exact List.all_takeWhile
      · simpa using hexpression
    · cases h
  · cases h

/-- In front of a name there is no blank, so it is enough to cut off the blanks behind it. -/
theorem strip_of_isName {before : String} (h : IsName (String.ofList (trimEnd before.toList))) :
    Text.strip before = String.ofList (trimEnd before.toList) := by
  obtain ⟨c, cs, hname, -⟩ := h.start
  have hc : isBlank c = false := h.not_blank c (by simp [hname])
  rw [String.toList_ofList] at hname
  obtain ⟨behind, hbefore⟩ := Text.trimEnd_prefix_self before.toList
  have hstart : trimStart before.toList = before.toList := by
    rw [← hbefore, hname]
    exact Text.trimStart_cons_of_not_blank hc _
  rw [Text.strip, trim, hstart]

theorem CutAtColon.laidOut {argument name expression : String} (h : CutAtColon argument name expression) :
    ∃ rest, LaidOut argument name rest ∧ expression = String.ofList (trim rest) := by
  cases h with
  | @cut before after whole first isName present =>
    obtain ⟨blanks, hblanks, hbefore⟩ := Text.exists_trimEnd_append before.toList
    have hname := strip_of_isName isName
    have happend : argument.toList = (Text.strip before).toList ++ (blanks ++ ':' :: after.toList) := by
      calc argument.toList = before.toList ++ ':' :: after.toList := by simp [whole]
        _ = trimEnd before.toList ++ blanks ++ ':' :: after.toList := by rw [← hbefore]
        _ = (Text.strip before).toList ++ (blanks ++ ':' :: after.toList) := by
          rw [hname, String.toList_ofList, List.append_assoc]
    have laid : LaidOut argument (Text.strip before) after.toList := by
      refine ⟨⟨blanks, hblanks, happend⟩, ?_, (Text.isBlankText_eq_false_iff after).1 present⟩
      rwa [hname]
    exact ⟨_, laid, rfl⟩

theorem LaidOut.cutAtColon {argument name : String} {rest : List Char} (h : LaidOut argument name rest) :
    CutAtColon argument name (String.ofList (trim rest)) := by
  obtain ⟨blanks, hblanks, whole⟩ := h.whole
  have hbefore : (name ++ String.ofList blanks).toList = name.toList ++ blanks := by
    rw [String.toList_append, String.toList_ofList]
  have hname : String.ofList (trimEnd (name ++ String.ofList blanks).toList) = name := by
    rw [hbefore, Text.trimEnd_append_blank _ hblanks, Text.trimEnd_eq_self_of_not_blank h.isName.not_blank,
      String.ofList_toList]
  have isName : IsName (String.ofList (trimEnd (name ++ String.ofList blanks).toList)) := by
    rw [hname]
    exact h.isName
  have hcut : CutAtColon argument (Text.strip (name ++ String.ofList blanks)) (Text.strip (String.ofList rest)) := by
    apply CutAtColon.cut
    · simp [← String.toList_inj, whole]
    · rw [hbefore, List.mem_append, not_or]
      constructor
      · intro hmem
        exact absurd (List.all_eq_true.1 h.isName.chars ':' hmem) (by decide)
      · intro hmem
        exact absurd (hblanks ':' hmem) (by decide)
    · exact isName
    · rw [Text.isBlankText_eq_false_iff, String.toList_ofList]
      exact h.present
  rwa [strip_of_isName isName, hname, Text.strip, String.toList_ofList] at hcut

/-- Splitting the argument of a transform is cutting it. -/
theorem splitTransform_eq_some_iff {argument name expression : String} :
    splitTransform argument = some (name, expression) ↔ CutAtColon argument name expression := by
  constructor
  · intro h
    obtain ⟨rest, laid, rfl⟩ := laidOut_of_splitTransform h
    exact laid.cutAtColon
  · intro h
    obtain ⟨rest, laid, rfl⟩ := h.laidOut
    exact laid.splitTransform_eq

end Header

open Header (Keyword)

/-! ### Headers of directives -/

/-- A keyword, a space and an argument are split at the space. -/
theorem split_keyword (k : Keyword) {argument : String} (trimmed : Text.strip argument = argument) :
    Header.split (k.word ++ " " ++ argument) = (k.word, argument) := by
  have hword : k.word.toList.all (!Text.isBlank ·) = true := by cases k <;> rfl
  have hstrip : Text.strip (" " ++ argument) = argument := by
    rw [Text.strip, String.toList_append]
    exact congrArg String.ofList (Text.trim_cons_of_blank (by decide) _) |>.trans trimmed
  have hcut : Header.CutAtBlank (k.word ++ " " ++ argument) k.word (Text.strip (" " ++ argument)) := by
    apply Header.CutAtBlank.cut
    · rw [String.append_assoc]
    · cases k <;> decide
    · simpa using hword
    · simp [Text.isBlank]
  rwa [hstrip, ← Header.split_eq_iff] at hcut

/-- The name and the expression of a transform are found behind its keyword. -/
theorem splitTransform_eq {name expression : String} (hn : IsName name) (he : IsLine expression) :
    Header.splitTransform (name ++ ": " ++ expression) = some (name, expression) := by
  have htrim : Text.trim (' ' :: expression.toList) = expression.toList :=
    (Text.trim_cons_of_blank (by decide) _).trans ((strip_eq_iff expression).1 he.trimmed)
  have laid : Header.LaidOut (name ++ ": " ++ expression) name (' ' :: expression.toList) := by
    refine ⟨⟨[], by simp, by simp⟩, hn, ?_⟩
    rw [htrim]
    exact he.toList_ne_nil
  rw [laid.splitTransform_eq, htrim, String.ofList_toList]

end Stencil.Template
