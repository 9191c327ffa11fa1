import Stencil.Proofs.Template.Cutting
import Stencil.Proofs.Template.Descent
import Stencil.Proofs.Text.Patterns

/-!
# Headers by pattern

A header fits a pattern with two groups, for its word and its argument, and the argument of a transform fits
another one, for a name and an expression. Blanks in front of the second group and a line feed at the end can be
read in several ways, which disagree on what the group keeps. Main statement: once it is trimmed all readings
agree, the one that a search finds included, and what they agree on are the parts into which the header or the
argument is cut; where there is no such cut, a transform is refused.
-/
namespace Stencil.Template

namespace Header

open Text (Pattern Reading isBlank trim)

/-! ### The two patterns -/

def isSolid (c : Char) : Bool := !isBlank c

/-- A word, and if the header goes on, blanks and anything else. -/
def headerPattern : Pattern :=
  .seq (.group 1 (.oneOrMore isSolid))
    (.seq (.optional (.seq (.oneOrMore isBlank) (.group 2 (.many fun _ => true)))) .finish)

/-- A name, a colon, and anything that begins with a character which is not blank. -/
def transformPattern : Pattern :=
  .seq (.group 1 (.starting isNameStart isNameChar))
    (.seq (.many isBlank) (.seq (.one (· == ':')) (.seq (.many isBlank)
      (.seq (.group 2 (.starting isSolid fun _ => true)) .finish))))

/-- What the groups of a reading keep, the second one trimmed. -/
def parts (r : Reading) : String × String :=
  (String.ofList ((r.group? 1).getD []), String.ofList (trim ((r.group? 2).getD [])))

/-- A header that does not fit the pattern is a word of its own. -/
def splitBySearch (header : String) : String × String :=
  match headerPattern.search? header with
  | some r => parts r
  | none => (header, "")

def splitTransformBySearch (argument : String) : Option (String × String) :=
  (transformPattern.search? argument).map parts

theorem isSolid_iff {c : Char} : isSolid c = true ↔ isBlank c = false := by
  rw [isSolid, Bool.not_eq_true']

/-- What a reading may leave at the end is blank. -/
theorem isBlank_of_end {tail : List Char} (h : tail = [] ∨ tail = ['\n']) : ∀ c ∈ tail, isBlank c = true := by
  rcases h with rfl | rfl
  · simp
  · simp [isBlank]

theorem mem_ways_finish_nil : ⟨[], [], []⟩ ∈ Pattern.finish.ways [] :=
  Pattern.mem_ways_finish.2 ⟨.inl rfl, rfl⟩

/-! ### Readings of headers -/

/-- Any reading of a header keeps its first word, and what follows the word up to blanks at its ends. -/
theorem parts_of_headerPattern {header : String} {r : Reading} (h : r ∈ headerPattern.ways header.toList) :
    parts r = split header := by
  obtain ⟨_, hgroup, t, ht, rfl⟩ := Pattern.mem_ways_seq.1 h
  obtain ⟨_, hword, rfl⟩ := Pattern.mem_ways_group.1 hgroup
  obtain ⟨c, letters, rest, hc, hletters, whole, rfl⟩ := Pattern.mem_ways_starting.1 hword
  obtain ⟨u, hu, v, hv, rfl⟩ := Pattern.mem_ways_seq.1 ht
  obtain ⟨hend, rfl⟩ := Pattern.mem_ways_finish.1 hv
  have solid : ∀ d ∈ c :: letters, isBlank d = false := by
    intro d hd
    rcases List.mem_cons.1 hd with rfl | hd
    · exact isSolid_iff.1 hc
    · exact isSolid_iff.1 (hletters d hd)
  rcases Pattern.mem_ways_optional.1 hu with hu | rfl
  · obtain ⟨_, hgap, _, hsecond, rfl⟩ := Pattern.mem_ways_seq.1 hu
    obtain ⟨b, blanks, behind, hb, hblanks, rfl, rfl⟩ := Pattern.mem_ways_starting.1 hgap
    obtain ⟨_, htext, rfl⟩ := Pattern.mem_ways_group.1 hsecond
    obtain ⟨text, tail, -, rfl, rfl⟩ := Pattern.mem_ways_many.1 htext
    have htrim : trim (b :: blanks ++ (text ++ tail)) = trim text := by
      rw [← List.append_assoc]
      exact Text.trim_between_blanks (List.forall_mem_cons.2 ⟨hb, hblanks⟩) text (isBlank_of_end hend)
    have hcut := split_of_append whole (by simp) solid (by simpa using hb)
    rw [hcut, htrim]
    rfl
  · have htrim : trim rest = [] := (Text.trim_eq_nil_iff rest).2 (isBlank_of_end hend)
    have maximal : ∀ d ∈ rest.head?, isBlank d = true := by
      intro d hd
      exact isBlank_of_end hend d (List.mem_of_mem_head? hd)
    have hcut := split_of_append whole (by simp) solid maximal
    rw [hcut, htrim]
    rfl

/-- Untrimmed, the readings disagree. -/
example : (headerPattern.ways "if  x\n".toList).map (·.group? 2) =
    ["x\n", "x", " x\n", " x"].map fun s => some s.toList := by decide

/-- A header that begins with a word can be read: one blank in front of the rest is enough. -/
theorem exists_mem_headerPattern {header : String} (start : ¬∀ c ∈ header.toList.head?, isBlank c = true) :
    ∃ r, r ∈ headerPattern.ways header.toList := by
  obtain ⟨word, rest, whole, nonempty, solid, maximal⟩ := exists_word start
  obtain ⟨c, letters, rfl⟩ := List.exists_cons_of_ne_nil nonempty
  obtain ⟨hc, hletters⟩ := List.forall_mem_cons.1 fun d hd => isSolid_iff.2 (solid d hd)
  have hword : ⟨c :: letters, rest, [(1, c :: letters)]⟩ ∈
      (Pattern.group 1 (.oneOrMore isSolid)).ways header.toList :=
    Pattern.mem_ways_group.2 ⟨_, Pattern.mem_ways_starting.2 ⟨c, letters, rest, hc, hletters, whole, rfl⟩, rfl⟩
  cases rest with
  | nil =>
    have hnone : ⟨[], [], []⟩ ∈
        (Pattern.optional (.seq (.oneOrMore isBlank) (.group 2 (.many fun _ => true)))).ways [] :=
      Pattern.mem_ways_optional.2 (.inr rfl)
    exact ⟨_, Pattern.andThen_mem_ways hword (Pattern.andThen_mem_ways hnone mem_ways_finish_nil)⟩
  | cons b text =>
    have hgap : ⟨[b], text, []⟩ ∈ (Pattern.oneOrMore isBlank).ways (b :: text) :=
      Pattern.mem_ways_starting.2 ⟨b, [], text, maximal b rfl, by simp, rfl, rfl⟩
    have htext : ⟨text, [], [(2, text)]⟩ ∈ (Pattern.group 2 (.many fun _ => true)).ways text :=
      Pattern.mem_ways_group.2 ⟨_, Pattern.mem_ways_many.2 ⟨text, [], by simp, by simp, rfl⟩, rfl⟩
    have hsome := Pattern.mem_ways_optional.2 (.inl (Pattern.andThen_mem_ways hgap htext))
    exact ⟨_, Pattern.andThen_mem_ways hword (Pattern.andThen_mem_ways hsome mem_ways_finish_nil)⟩

theorem splitBySearch_eq (header : String) : splitBySearch header = split header := by
  unfold splitBySearch
  cases hsearch : headerPattern.search? header with
  | some r => exact parts_of_headerPattern (Pattern.mem_ways_of_search? hsearch)
  | none =>
    by_cases start : ∀ c ∈ header.toList.head?, isBlank c = true
    · exact (split_of_blank start).symm
    · obtain ⟨r, hr⟩ := exists_mem_headerPattern start
      exact absurd hr (Pattern.search?_eq_none_iff.1 hsearch r)

/-! ### Readings of arguments -/

theorem isNameChar_of_isNameStart {c : Char} (h : isNameStart c = true) : isNameChar c = true := by
  rw [isNameStart, Bool.or_eq_true] at h
  rw [isNameChar, Char.isAlphanum, Bool.or_eq_true, Bool.or_eq_true]
  rcases h with hletter | hline
  · exact .inl (.inl hletter)
  · exact .inr hline

/-- Any reading of an argument lays it out, and keeps its name and its expression up to blanks at the end. -/
theorem laidOut_of_transformPattern {argument : String} {r : Reading}
    (h : r ∈ transformPattern.ways argument.toList) :
    ∃ rest, LaidOut argument (parts r).1 rest ∧ (parts r).2 = String.ofList (trim rest) := by
  obtain ⟨_, hgroup, u, hu, rfl⟩ := Pattern.mem_ways_seq.1 h
  obtain ⟨_, hname, rfl⟩ := Pattern.mem_ways_group.1 hgroup
  obtain ⟨c, letters, behindName, hc, hletters, whole, rfl⟩ := Pattern.mem_ways_starting.1 hname
  obtain ⟨_, hmany, v, hv, rfl⟩ := Pattern.mem_ways_seq.1 hu
  obtain ⟨blanks, behindBlanks, hblanks, hbehindName, rfl⟩ := Pattern.mem_ways_many.1 hmany
  obtain ⟨_, hone, w, hw, rfl⟩ := Pattern.mem_ways_seq.1 hv
  obtain ⟨colon, behindColon, hcolon, hbehindBlanks, rfl⟩ := Pattern.mem_ways_one.1 hone
  obtain ⟨_, hmore, x, hx, rfl⟩ := Pattern.mem_ways_seq.1 hw
  obtain ⟨gap, behindGap, hgap, hbehindColon, rfl⟩ := Pattern.mem_ways_many.1 hmore
  obtain ⟨_, hsecond, y, hy, rfl⟩ := Pattern.mem_ways_seq.1 hx
  obtain ⟨_, htext, rfl⟩ := Pattern.mem_ways_group.1 hsecond
  obtain ⟨d, others, tail, hd, -, hbehindGap, rfl⟩ := Pattern.mem_ways_starting.1 htext
  obtain ⟨hend, rfl⟩ := Pattern.mem_ways_finish.1 hy
  dsimp only at hbehindName hbehindBlanks hbehindColon hbehindGap hend
  subst hbehindName hbehindBlanks hbehindColon hbehindGap
  have htrim : trim (gap ++ (d :: others ++ tail)) = trim (d :: others) := by
    rw [← List.append_assoc]
    exact Text.trim_between_blanks hgap (d :: others) (isBlank_of_end hend)
  have present : trim (d :: others) ≠ [] := by
    intro hnil
    have hblank : isBlank d = true := (Text.trim_eq_nil_iff _).1 hnil d List.mem_cons_self
    rw [isSolid_iff.1 hd] at hblank
    cases hblank
  have hchars : ∀ e ∈ c :: letters, isNameChar e = true :=
    List.forall_mem_cons.2 ⟨isNameChar_of_isNameStart hc, hletters⟩
  have laid : LaidOut argument (String.ofList (c :: letters)) (gap ++ (d :: others ++ tail)) := by
    refine ⟨⟨blanks, hblanks, ?_⟩, ⟨⟨c, letters, String.toList_ofList, hc⟩, ?_⟩, ?_⟩
    · rw [whole, beq_iff_eq.1 hcolon, String.toList_ofList]
    · rwa [String.toList_ofList, List.all_eq_true]
    · rwa [htrim]
  exact ⟨_, laid, by rw [htrim]; rfl⟩

theorem parts_of_transformPattern {argument : String} {r : Reading}
    (h : r ∈ transformPattern.ways argument.toList) : splitTransform argument = some (parts r) := by
  obtain ⟨rest, laid, hexpression⟩ := laidOut_of_transformPattern h
  rw [laid.splitTransform_eq, ← hexpression]

/-- An argument that is laid out can be read. -/
theorem LaidOut.exists_mem_transformPattern {argument name : String} {rest : List Char}
    (h : LaidOut argument name rest) : ∃ r, r ∈ transformPattern.ways argument.toList := by
  obtain ⟨blanks, hblanks, whole⟩ := h.whole
  obtain ⟨c, letters, hletters, hc⟩ := h.isName.start
  obtain ⟨gap, d, others, hgap, hd, rfl⟩ := Text.exists_blanks_append h.present
  have hchars := List.all_eq_true.1 h.isName.chars
  rw [hletters] at whole hchars
  have hname : ⟨c :: letters, blanks ++ ':' :: (gap ++ d :: others), [(1, c :: letters)]⟩ ∈
      (Pattern.group 1 (.starting isNameStart isNameChar)).ways argument.toList :=
    Pattern.mem_ways_group.2
      ⟨_, Pattern.mem_ways_starting.2 ⟨c, letters, _, hc, (List.forall_mem_cons.1 hchars).2, whole, rfl⟩, rfl⟩
  have hblanks : ⟨blanks, ':' :: (gap ++ d :: others), []⟩ ∈
      (Pattern.many isBlank).ways (blanks ++ ':' :: (gap ++ d :: others)) :=
    Pattern.mem_ways_many.2 ⟨blanks, _, hblanks, rfl, rfl⟩
  have hcolon : ⟨[':'], gap ++ d :: others, []⟩ ∈
      (Pattern.one (· == ':')).ways (':' :: (gap ++ d :: others)) :=
    Pattern.mem_ways_one.2 ⟨':', _, rfl, rfl, rfl⟩
  have hgap : ⟨gap, d :: others, []⟩ ∈ (Pattern.many isBlank).ways (gap ++ d :: others) :=
    Pattern.mem_ways_many.2 ⟨gap, _, hgap, rfl, rfl⟩
  have htext : ⟨d :: others, [], [(2, d :: others)]⟩ ∈
      (Pattern.group 2 (.starting isSolid fun _ => true)).ways (d :: others) :=
    Pattern.mem_ways_group.2
      ⟨_, Pattern.mem_ways_starting.2 ⟨d, others, [], isSolid_iff.2 hd, by simp, by simp, rfl⟩, rfl⟩
  exact ⟨_, Pattern.andThen_mem_ways hname (Pattern.andThen_mem_ways hblanks (Pattern.andThen_mem_ways hcolon
    (Pattern.andThen_mem_ways hgap (Pattern.andThen_mem_ways htext mem_ways_finish_nil))))⟩

theorem splitTransformBySearch_eq (argument : String) :
    splitTransformBySearch argument = splitTransform argument := by
  unfold splitTransformBySearch
  cases hsearch : transformPattern.search? argument with
  | some r => exact (parts_of_transformPattern (Pattern.mem_ways_of_search? hsearch)).symm
  | none =>
    cases hsplit : splitTransform argument with
    | none => rfl
    | some found =>
      obtain ⟨rest, laid, -⟩ := laidOut_of_splitTransform hsplit
      obtain ⟨r, hr⟩ := laid.exists_mem_transformPattern
      exact absurd hr (Pattern.search?_eq_none_iff.1 hsearch r)

end Header

/-! ### Transforms -/

section

variable {t : Token} {argument : String} (header : Header.split t.value = ("transform", argument))
  (nonempty : argument ≠ "") (items : List Item) (inChoice : Bool)

include header nonempty

/-- A transform is judged by what its argument is split into. -/
theorem close_transform :
    close t items inChoice = match Header.splitTransform argument with
      | some (name, expression) =>
        (plainBlocks items).map fun children => .block (.directive (.transform name expression) children)
      | none => .error (.flawed .badTransform t) := by
  have hk : Header.keyword? "transform" = some .transform := keyword?_word .transform
  unfold close
  rw [header]
  simp only [hk, requireArgument_bind, if_neg nonempty]
  cases Header.splitTransform argument with
  | none => rfl
  | some found => cases plainBlocks items <;> rfl

theorem close_of_cutAtColon {name expression : String} (h : Header.CutAtColon argument name expression) :
    close t items inChoice =
      (plainBlocks items).map fun children => .block (.directive (.transform name expression) children) := by
  rw [close_transform header nonempty, Header.splitTransform_eq_some_iff.2 h]

theorem close_of_not_cutAtColon (h : ∀ name expression, ¬Header.CutAtColon argument name expression) :
    close t items inChoice = .error (.flawed .badTransform t) := by
  have hnone : Header.splitTransform argument = none := by
    rw [Option.eq_none_iff_forall_ne_some]
    rintro ⟨name, expression⟩ hsplit
    exact h name expression (Header.splitTransform_eq_some_iff.1 hsplit)
  rw [close_transform header nonempty, hnone]

end

/-- In whatever way its pattern is read, a header falls into the parts into which it is cut at its first blank. In
whatever way its pattern is read, the argument of a transform falls into the parts into which it is cut at its first
colon, and it can be read exactly if there is such a cut. Then the transform is made of these parts, and else it is
refused. -/
theorem header_readings_are_cuts :
    (∀ header : String,
      Header.splitBySearch header = Header.split header ∧
      (∀ r ∈ Header.headerPattern.ways header.toList, Header.parts r = Header.split header) ∧
      ∀ word argument, Header.split header = (word, argument) ↔ Header.CutAtBlank header word argument) ∧
    ∀ argument : String, Text.strip argument = argument → argument ≠ "" →
      Header.splitTransformBySearch argument = Header.splitTransform argument ∧
      (∀ r ∈ Header.transformPattern.ways argument.toList,
        Header.splitTransform argument = some (Header.parts r)) ∧
      (∀ name expression, Header.splitTransform argument = some (name, expression) ↔
        Header.CutAtColon argument name expression) ∧
      (∃ header, Header.split header = ("transform", argument)) ∧
      ∀ (t : Token) (items : List Item) (inChoice : Bool), Header.split t.value = ("transform", argument) →
        (∀ name expression, Header.CutAtColon argument name expression →
          close t items inChoice =
            (plainBlocks items).map fun children => .block (.directive (.transform name expression) children)) ∧
        ((∀ name expression, ¬Header.CutAtColon argument name expression) →
          close t items inChoice = .error (.flawed .badTransform t) ∧
            Flaw.badTransform.detail = "Invalid transform header, expected 'transform <name>: <expression>'") := by
  constructor
  · intro header
    refine ⟨Header.splitBySearch_eq header, ?_, fun word argument => Header.split_eq_iff⟩
    exact fun r hr => Header.parts_of_headerPattern hr
  · intro argument trimmed nonempty
    refine ⟨Header.splitTransformBySearch_eq argument, ?_, ?_, ?_, ?_⟩
    · exact fun r hr => Header.parts_of_transformPattern hr
    · exact fun name expression => Header.splitTransform_eq_some_iff
    · exact ⟨_, split_keyword .transform trimmed⟩
    · intro t items inChoice header
      constructor
      · intro name expression h
        exact close_of_cutAtColon header nonempty items inChoice h
      · intro h
        exact ⟨close_of_not_cutAtColon header nonempty items inChoice h, rfl⟩

/-- Blanks of many kinds, two colons and a line feed at the end; and a name that begins with a digit. -/
theorem header_readings_are_cuts_of_blanks :
    let argument := "body_1\t:\u2003x: y"
    let t : Token := ⟨.opening, "transform\u00a0 body_1\t:\u2003x: y\n", .start⟩
    let u : Token := ⟨.opening, "transform 1body: x", .start⟩
    (Text.strip argument = argument ∧ argument ≠ "" ∧ Header.split t.value = ("transform", argument) ∧
      (∃ r ∈ Header.headerPattern.ways t.value.toList, Header.parts r = ("transform", argument)) ∧
      (∃ r ∈ Header.transformPattern.ways argument.toList, Header.parts r = ("body_1", "x: y")) ∧
      Header.CutAtColon argument "body_1" "x: y" ∧
      close t [] false = .ok (.block (.directive (.transform "body_1" "x: y") []))) ∧
    Text.strip "1body: x" = "1body: x" ∧ Header.split u.value = ("transform", "1body: x") ∧
      (∀ name expression, ¬Header.CutAtColon "1body: x" name expression) ∧
      close u [] false = .error (.flawed .badTransform u) := by
  intro argument t u
  have trimmed : Text.strip argument = argument := by decide
  have nonempty : argument ≠ "" := by decide
  have header : Header.split t.value = ("transform", argument) := by decide
  have found : Header.splitTransform argument = some ("body_1", "x: y") := by decide
  obtain ⟨r, hr⟩ := List.exists_mem_of_ne_nil (Header.headerPattern.ways t.value.toList) (by decide)
  have hparts := (header_readings_are_cuts.1 t.value).2.1 r hr
  obtain ⟨-, hread, hcut, -, hclose⟩ := header_readings_are_cuts.2 argument trimmed nonempty
  obtain ⟨s, hs⟩ := List.exists_mem_of_ne_nil (Header.transformPattern.ways argument.toList) (by decide)
  have hparts' := Option.some.inj ((hread s hs).symm.trans found)
  have cut := (hcut "body_1" "x: y").1 found
  have trimmed' : Text.strip "1body: x" = "1body: x" := by decide
  have header' : Header.split u.value = ("transform", "1body: x") := by decide
  have lost : Header.splitTransform "1body: x" = none := by decide
  obtain ⟨-, -, hcut', -, hclose'⟩ := header_readings_are_cuts.2 "1body: x" trimmed' (by decide)
  have uncut : ∀ name expression, ¬Header.CutAtColon "1body: x" name expression := by
    intro name expression h
    rw [← hcut', lost] at h
    cases h
  exact ⟨⟨trimmed, nonempty, header, ⟨r, hr, hparts.trans header⟩, ⟨s, hs, hparts'⟩, cut,
    (hclose t [] false header).1 _ _ cut⟩, trimmed', header', uncut, ((hclose' u [] false header').2 uncut).1⟩

end Stencil.Template
