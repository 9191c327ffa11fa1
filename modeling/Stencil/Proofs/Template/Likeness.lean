import Mathlib
import Stencil.Proofs.Template.Outline
import Stencil.Proofs.Template.Spelled
import Stencil.Proofs.Text.Quoting

/-!
# What a listing tells

The lines of a listing can be told apart, since no headline has a line feed; the level of a row says where a
sequence of blocks ends, and a headline says which directive it is. Main statement: the listings of two
templates are the same just if the templates are, but for what texts go on with after their first fifty
characters.
-/
namespace Stencil.Template

open Block (rowsBelow rowsAll labelled headline_text headline_directive headline_choice)

/-! ### Templates that look alike -/

/-- Two texts have the same first characters, and are the same if one of them has no more than these. -/
structure BeginAlike (count : Nat) (s t : String) : Prop where
  beginning : s.toList.take count = t.toList.take count
  whole : s.length ≤ count ∨ t.length ≤ count → s = t

/-- The blocks are the same, but for texts that only begin alike. -/
inductive LooksAlike : List Block → List Block → Prop
  | nil : LooksAlike [] []
  | text {content content' : String} {others others' : List Block} (beginning : BeginAlike 50 content content')
      (rest : LooksAlike others others') : LooksAlike (.text content :: others) (.text content' :: others')
  | directive (kind : Directive) {children children' others others' : List Block}
      (body : LooksAlike children children') (rest : LooksAlike others others') :
      LooksAlike (.directive kind children :: others) (.directive kind children' :: others')
  | choice (condition : String) {children children' otherwise otherwise' others others' : List Block}
      (first : LooksAlike children children') (second : LooksAlike otherwise otherwise')
      (rest : LooksAlike others others') :
      LooksAlike (.choice condition children otherwise :: others)
        (.choice condition children' otherwise' :: others')

theorem preview_of_long {limit : Nat} {s : String} (h : limit < s.length) :
    preview limit s = String.ofList (s.toList.take limit) ++ "..." := by
  rw [preview, if_pos h]

theorem preview_of_short {limit : Nat} {s : String} (h : s.length ≤ limit) : preview limit s = s := by
  rw [preview, if_neg (Nat.not_lt.2 h)]

/-- The dots of a preview make it longer than any text that is shown as a whole. -/
theorem preview_ne_of_short {limit : Nat} {s t : String} (hs : limit < s.length) (ht : t.length ≤ limit) :
    preview limit s ≠ preview limit t := by
  intro h
  rw [preview_of_long hs, preview_of_short ht] at h
  have hlength := congrArg String.length h
  simp only [String.length_append, String.length_ofList, List.length_take, String.length_toList] at hlength
  have hdots : "...".length = 3 := rfl
  omega

theorem preview_eq_iff (limit : Nat) (s t : String) : preview limit s = preview limit t ↔ BeginAlike limit s t := by
  rcases Nat.lt_or_ge limit s.length with hs | hs <;> rcases Nat.lt_or_ge limit t.length with ht | ht
  · rw [preview_of_long hs, preview_of_long ht]
    constructor
    · intro h
      have hchars := congrArg String.toList h
      simp only [String.toList_append, String.toList_ofList] at hchars
      exact ⟨List.append_cancel_right hchars, fun hshort => by omega⟩
    · intro h
      rw [h.beginning]
  · refine iff_of_false (preview_ne_of_short hs ht) fun h => ?_
    rw [h.whole (.inr ht)] at hs
    omega
  · refine iff_of_false (preview_ne_of_short ht hs).symm fun h => ?_
    rw [← h.whole (.inl hs)] at ht
    omega
  · rw [preview_of_short hs, preview_of_short ht]
    constructor
    · rintro rfl
      exact ⟨rfl, fun _ => rfl⟩
    · intro h
      exact h.whole (.inl hs)

namespace LooksAlike

theorem isEmpty_eq {blocks blocks' : List Block} (h : LooksAlike blocks blocks') :
    blocks.isEmpty = blocks'.isEmpty := by
  cases h <;> rfl

/-- Templates that look alike have the same rows. -/
theorem rowsAll_eq {blocks blocks' : List Block} (h : LooksAlike blocks blocks') (level : Int) :
    rowsAll level blocks = rowsAll level blocks' := by
  induction h generalizing level with
  | nil => rfl
  | text beginning _ ih =>
    rw [rowsAll, rowsAll, headline_text, headline_text, (preview_eq_iff _ _ _).2 beginning, ih]
    rfl
  | directive kind _ _ ihBody ih =>
    rw [rowsAll, rowsAll, headline_directive, headline_directive, rowsBelow, rowsBelow, ihBody, ih]
  | choice condition first second _ ihFirst ihSecond ih =>
    rw [rowsAll, rowsAll, headline_choice, headline_choice, rowsBelow, rowsBelow, labelled, labelled, labelled,
      labelled, first.isEmpty_eq, second.isEmpty_eq, ihFirst, ihSecond, ih]

end LooksAlike

/-! ### Lines -/

/-- A row of a template that has been read: its entry is on one line, and labels are told from headlines by
how they begin. -/
inductive Row.Plain : Row → Prop
  | label {level : Int} {word : String} (inside : 0 ≤ level) (known : word = "then:" ∨ word = "else:") :
      Plain (.label level word)
  | block {level : Int} {headline : String} (inside : 0 ≤ level)
      (start : headline.toList.head? = some 'T' ∨ headline.toList.head? = some 'D')
      (oneLine : '\n' ∉ headline.toList) : Plain (.block level headline)

namespace Row

theorem toList_text (r : Row) :
    r.text.toList = List.replicate (2 * r.level.toNat) ' ' ++ r.entry.toList := by
  rw [text, String.toList_append, Listing.indentation, String.toList_ofList]

namespace Plain

variable {r r' : Row}

theorem level_nonneg (h : r.Plain) : 0 ≤ r.level := by
  cases h <;> assumption

theorem exists_start (h : r.Plain) : ∃ c cs, r.entry.toList = c :: cs ∧ c ≠ ' ' := by
  cases h with
  | @label _ word _ known =>
    have hword : word.toList = 't' :: "hen:".toList ∨ word.toList = 'e' :: "lse:".toList := by
      rcases known with rfl | rfl <;> decide
    rcases hword with hword | hword
    · exact ⟨'t', _, hword, by decide⟩
    · exact ⟨'e', _, hword, by decide⟩
  | block _ start _ =>
    rcases start with start | start
    · obtain ⟨cs, hcs⟩ := List.head?_eq_some_iff.1 start
      exact ⟨'T', cs, hcs, by decide⟩
    · obtain ⟨cs, hcs⟩ := List.head?_eq_some_iff.1 start
      exact ⟨'D', cs, hcs, by decide⟩

theorem lineFeed_not_mem_text (h : r.Plain) : '\n' ∉ r.text.toList := by
  have hentry : '\n' ∉ r.entry.toList := by
    cases h with
    | @label _ word _ known =>
      have hword : '\n' ∉ word.toList := by rcases known with rfl | rfl <;> decide
      exact hword
    | block _ _ oneLine => exact oneLine
  rw [toList_text, List.mem_append, not_or]
  exact ⟨fun hmem => absurd (List.eq_of_mem_replicate hmem) (by decide), hentry⟩

theorem text_ne_nil (h : r.Plain) : r.text.toList ≠ [] := by
  obtain ⟨c, cs, hcs, -⟩ := h.exists_start
  simp [toList_text, hcs]

/-- No label is a headline. -/
theorem eq_of_entry (h : r.Plain) (h' : r'.Plain) (hlevel : r.level = r'.level) (hentry : r.entry = r'.entry) :
    r = r' := by
  cases h with
  | @label level word _ known =>
    cases h' with
    | @label level' word' =>
      obtain rfl : level = level' := hlevel
      obtain rfl : word = word' := hentry
      rfl
    | @block level' headline _ start =>
      obtain rfl : word = headline := hentry
      rcases known with rfl | rfl <;> rcases start with start | start <;> cases start
  | @block level headline _ start =>
    cases h' with
    | @label level' word _ known =>
      obtain rfl : headline = word := hentry
      rcases known with rfl | rfl <;> rcases start with start | start <;> cases start
    | @block level' headline' =>
      obtain rfl : level = level' := hlevel
      obtain rfl : headline = headline' := hentry
      rfl

end Plain

end Row

/-- Blanks before a character that is none can be counted. -/
theorem replicate_append_inj {n m : Nat} {c d : Char} {cs ds : List Char} (hc : c ≠ ' ') (hd : d ≠ ' ')
    (h : List.replicate n ' ' ++ c :: cs = List.replicate m ' ' ++ d :: ds) : n = m ∧ c :: cs = d :: ds := by
  induction n generalizing m with
  | zero =>
    cases m with
    | zero => exact ⟨rfl, h⟩
    | succ m => exact absurd (List.cons.inj h).1 hc
  | succ n ih =>
    cases m with
    | zero => exact absurd (List.cons.inj h).1.symm hd
    | succ m =>
      obtain ⟨hnm, hrest⟩ := ih (List.cons.inj h).2
      exact ⟨congrArg (· + 1) hnm, hrest⟩

theorem Row.Plain.eq_of_text {r r' : Row} (h : r.Plain) (h' : r'.Plain) (htext : r.text = r'.text) : r = r' := by
  obtain ⟨c, cs, hcs, hc⟩ := h.exists_start
  obtain ⟨d, ds, hds, hd⟩ := h'.exists_start
  have hchars := congrArg String.toList htext
  rw [Row.toList_text, Row.toList_text, hcs, hds] at hchars
  obtain ⟨hcount, hentry⟩ := replicate_append_inj hc hd hchars
  have hlevel : r.level = r'.level := by
    have := h.level_nonneg
    have := h'.level_nonneg
    omega
  refine h.eq_of_entry h' hlevel (String.toList_inj.1 ?_)
  rw [hcs, hds, hentry]

theorem lines_inj {lines lines' : List (List Char)} (h : ∀ line ∈ lines, line ≠ [] ∧ '\n' ∉ line)
    (h' : ∀ line ∈ lines', line ≠ [] ∧ '\n' ∉ line)
    (heq : ['\n'].intercalate lines = ['\n'].intercalate lines') : lines = lines' := by
  -- A listing without lines is empty, like one with a single line and nothing in it.
  have hnil {lines : List (List Char)} (h : ∀ line ∈ lines, line ≠ [] ∧ '\n' ∉ line)
      (heq : ['\n'].intercalate lines = []) : lines = [] := by
    by_contra hne
    have hsplit := List.splitOn_intercalate '\n' (fun line hline => (h line hline).2) hne
    rw [heq] at hsplit
    have hempty : [] ∈ lines := by
      rw [← hsplit]
      simp
    exact (h [] hempty).1 rfl
  by_cases hne : lines = []
  · subst hne
    exact (hnil h' heq.symm).symm
  · have hne' : lines' ≠ [] := by
      rintro rfl
      exact hne (hnil h heq)
    rw [← List.splitOn_intercalate '\n' (fun line hline => (h line hline).2) hne, heq,
      List.splitOn_intercalate '\n' (fun line hline => (h' line hline).2) hne']

theorem eq_of_map_text {rs rs' : List Row} (h : ∀ r ∈ rs, r.Plain) (h' : ∀ r ∈ rs', r.Plain)
    (heq : rs.map Row.text = rs'.map Row.text) : rs = rs' := by
  induction rs generalizing rs' with
  | nil => simpa using heq.symm
  | cons r rs ih =>
    cases rs' with
    | nil => simp at heq
    | cons r' rs' =>
      obtain ⟨htext, hrest⟩ := List.cons.inj heq
      rw [List.forall_mem_cons] at h h'
      rw [h.1.eq_of_text h'.1 htext, ih h.2 h'.2 hrest]

/-- The text of a listing tells its rows. -/
theorem rows_inj {rs rs' : List Row} (h : ∀ r ∈ rs, r.Plain) (h' : ∀ r ∈ rs', r.Plain)
    (heq : String.intercalate "\n" (rs.map Row.text) = String.intercalate "\n" (rs'.map Row.text)) :
    rs = rs' := by
  have hlines (rs : List Row) (h : ∀ r ∈ rs, r.Plain) :
      ∀ line ∈ (rs.map Row.text).map String.toList, line ≠ [] ∧ '\n' ∉ line := by
    intro line hline
    simp only [List.mem_map, exists_exists_and_eq_and] at hline
    obtain ⟨r, hr, rfl⟩ := hline
    exact ⟨(h r hr).text_ne_nil, (h r hr).lineFeed_not_mem_text⟩
  have hchars := congrArg String.toList heq
  rw [String.toList_intercalate, String.toList_intercalate] at hchars
  have htexts := lines_inj (hlines rs h) (hlines rs' h') hchars
  exact eq_of_map_text h h' ((List.map_inj_right fun _ _ => String.toList_inj.1).1 htexts)

/-! ### Headlines -/

/-- The first word of a description and what follows it, for directives that a text can spell. -/
def Directive.parts : Directive → String × String
  | group header => ("noop", Text.quote header)
  | guard condition => ("if", condition)
  | inclusion path => ("include", path)
  | transform name expression => ("transform", name ++ ": " ++ expression)
  | custom kind => (kind, "")

theorem first_word_inj {word word' rest rest' : String} (hword : ' ' ∉ word.toList) (hword' : ' ' ∉ word'.toList)
    (h : word ++ " " ++ rest = word' ++ " " ++ rest') : word = word' ∧ rest = rest' := by
  have hspan {word rest : String} (hword : ' ' ∉ word.toList) :
      (word ++ " " ++ rest).toList.span (· ≠ ' ') = (word.toList, ' ' :: rest.toList) := by
    have hletters : ∀ c ∈ word.toList, decide (c ≠ ' ') = true := by
      intro c hc
      simpa using ne_of_mem_of_not_mem hc hword
    rw [List.span_eq_takeWhile_dropWhile, String.toList_append, String.toList_append, List.append_assoc,
      List.takeWhile_append_of_pos hletters, List.dropWhile_append_of_pos hletters]
    simp
  have hsplit := congrArg (fun s => s.toList.span (· ≠ ' ')) h
  simp only [hspan hword, hspan hword'] at hsplit
  obtain ⟨hw, hr⟩ := Prod.ext_iff.1 hsplit
  exact ⟨String.toList_inj.1 hw, String.toList_inj.1 (List.cons.inj hr).2⟩

namespace Directive.WellFormed

variable {kind kind' : Directive}

theorem describe_eq (h : kind.WellFormed) : kind.describe = kind.parts.1 ++ " " ++ kind.parts.2 := by
  cases h with
  | group => rfl
  | guard => rfl
  | inclusion => rfl
  | transform => exact header_transform _ _

theorem blank_not_mem_word (h : kind.WellFormed) : ' ' ∉ kind.parts.1.toList := by
  cases h <;> simp [parts]

theorem lineFeed_not_mem_describe (h : kind.WellFormed) : '\n' ∉ kind.describe.toList := by
  have hheader := h.isLine_header.oneLine
  cases h with
  | group =>
    rw [Directive.describe, String.toList_append, List.mem_append, not_or]
    exact ⟨by decide, Text.lineFeed_not_mem_quote _⟩
  | guard => exact hheader
  | inclusion => exact hheader
  | transform => exact hheader

/-- A directive is not a choice. -/
theorem word_ne_choice (h : kind.WellFormed) : kind.parts.1 ≠ "ifelse" := by
  cases h <;> simp [parts]

theorem eq_of_parts (h : kind.WellFormed) (h' : kind'.WellFormed) (hparts : kind.parts = kind'.parts) :
    kind = kind' := by
  obtain ⟨hword, hrest⟩ := Prod.ext_iff.1 hparts
  cases h with
  | group =>
    cases h' with
    | group => exact congrArg Directive.group (Text.quote_injective hrest)
    | _ => simp [parts] at hword
  | guard =>
    cases h' with
    | guard => exact congrArg Directive.guard hrest
    | _ => simp [parts] at hword
  | inclusion =>
    cases h' with
    | inclusion => exact congrArg Directive.inclusion hrest
    | _ => simp [parts] at hword
  | transform isName line =>
    cases h' with
    | transform isName' line' =>
      have hsplit := congrArg Header.splitTransform hrest
      simp only [parts] at hsplit
      rw [splitTransform_eq isName line, splitTransform_eq isName' line'] at hsplit
      cases hsplit
      rfl
    | _ => simp [parts] at hword

/-- What a directive is is told by its description. -/
theorem eq_of_describe (h : kind.WellFormed) (h' : kind'.WellFormed) (heq : kind.describe = kind'.describe) :
    kind = kind' := by
  rw [h.describe_eq, h'.describe_eq] at heq
  obtain ⟨hword, hrest⟩ := first_word_inj h.blank_not_mem_word h'.blank_not_mem_word heq
  exact h.eq_of_parts h' (Prod.ext hword hrest)

theorem describe_ne_choice (h : kind.WellFormed) (condition : String) :
    kind.describe ≠ describeChoice condition := by
  intro heq
  rw [h.describe_eq, describeChoice_eq] at heq
  exact h.word_ne_choice (first_word_inj h.blank_not_mem_word (by decide) heq).1

end Directive.WellFormed

/-- Two blocks look alike, but for what is in them. -/
inductive SameHead : Block → Block → Prop
  | text {content content' : String} (beginning : BeginAlike 50 content content') :
      SameHead (.text content) (.text content')
  | directive (kind : Directive) (children children' : List Block) :
      SameHead (.directive kind children) (.directive kind children')
  | choice (condition : String) (children children' otherwise otherwise' : List Block) :
      SameHead (.choice condition children otherwise) (.choice condition children' otherwise')

/-- How the headline of a block that is spelled is made. -/
inductive Headed : Block → Prop
  | text (content : String) : Headed (.text content)
  | directive {kind : Directive} (header : kind.WellFormed) (children : List Block) :
      Headed (.directive kind children)
  | choice {condition : String} (line : IsLine condition) (children otherwise : List Block) :
      Headed (.choice condition children otherwise)

theorem WellFormed.headed {b : Block} {bs : List Block} (h : WellFormed (b :: bs)) : Headed b := by
  cases h with
  | text => exact .text _
  | directive header => exact .directive header _
  | choice line => exact .choice line _ _

namespace Headed

variable {b b' : Block}

/-- The headline of a text begins with a letter of its own, and those of directives are enclosed alike. -/
theorem plain (h : Headed b) {level : Int} (hlevel : 0 ≤ level) : (Row.block level b.headline).Plain := by
  have henclosed {description : String} (oneLine : '\n' ∉ description.toList) :
      (Row.block level ("Directive(" ++ description ++ ")")).Plain := by
    refine .block hlevel (.inr (by simp)) ?_
    simpa using oneLine
  cases h with
  | text content =>
    rw [headline_text]
    refine .block hlevel (.inl (by simp)) ?_
    simpa using Text.lineFeed_not_mem_quote _
  | directive header =>
    rw [headline_directive]
    exact henclosed header.lineFeed_not_mem_describe
  | choice line =>
    rw [headline_choice]
    exact henclosed (isLine_keyword .choice line).oneLine

theorem sameHead (h : Headed b) (h' : Headed b') (heq : b.headline = b'.headline) : SameHead b b' := by
  have hletter := congrArg (fun s => s.toList.head?) heq
  cases h with
  | text content =>
    cases h' with
    | text content' =>
      rw [headline_text, headline_text, String.append_left_inj, String.append_right_inj] at heq
      exact .text ((preview_eq_iff _ _ _).1 (Text.quote_injective heq))
    | directive => simp [headline_text, headline_directive] at hletter
    | choice => simp [headline_text, headline_choice] at hletter
  | directive header =>
    cases h' with
    | text => simp [headline_text, headline_directive] at hletter
    | directive header' =>
      rw [headline_directive, headline_directive, String.append_left_inj, String.append_right_inj] at heq
      obtain rfl := header.eq_of_describe header' heq
      exact .directive _ _ _
    | choice =>
      rw [headline_directive, headline_choice, String.append_left_inj, String.append_right_inj] at heq
      exact absurd heq (header.describe_ne_choice _)
  | choice =>
    cases h' with
    | text => simp [headline_text, headline_choice] at hletter
    | directive header' =>
      rw [headline_directive, headline_choice, String.append_left_inj, String.append_right_inj] at heq
      exact absurd heq.symm (header'.describe_ne_choice _)
    | choice =>
      rw [headline_choice, headline_choice, String.append_left_inj, String.append_right_inj, describeChoice,
        describeChoice, String.append_right_inj] at heq
      obtain rfl := heq
      exact .choice _ _ _ _ _

end Headed

theorem plain_labelled {word : String} (known : word = "then:" ∨ word = "else:") {level : Int}
    (hlevel : 0 ≤ level) (branch : List Block) {below : List Row} (h : ∀ r ∈ below, r.Plain) :
    ∀ r ∈ labelled word level branch below, r.Plain := by
  unfold labelled
  split
  · simp
  · rw [List.forall_mem_cons]
    exact ⟨.label hlevel known, h⟩

/-- All rows of a template that a text can spell can be told apart. -/
theorem WellFormed.plain {blocks : List Block} (h : WellFormed blocks) {level : Int} (hlevel : 0 ≤ level) :
    ∀ r ∈ rowsAll level blocks, r.Plain := by
  induction h generalizing level with
  | nil => simp [rowsAll]
  | text isContent apart rest ih =>
    rw [rowsAll, List.forall_mem_cons]
    exact ⟨(Headed.text _).plain hlevel, ih hlevel⟩
  | directive header leaf body rest ihBody ih =>
    rw [rowsAll, List.forall_mem_cons, List.forall_mem_append]
    exact ⟨(Headed.directive header _).plain hlevel, ihBody (by omega), ih hlevel⟩
  | choice line first second rest ihFirst ihSecond ih =>
    rw [rowsAll, List.forall_mem_cons, List.forall_mem_append, rowsBelow, List.forall_mem_append]
    exact ⟨(Headed.choice line _ _).plain hlevel,
      ⟨plain_labelled (.inl rfl) (by omega) _ (ihFirst (by omega)),
        plain_labelled (.inr rfl) (by omega) _ (ihSecond (by omega))⟩, ih hlevel⟩

/-! ### Where a sequence ends -/

/-- The next row, if there is one, stands further out. -/
def Ends (level : Int) (rest : List Row) : Prop := ∀ r ∈ rest.head?, r.level < level

theorem Ends.rowsAll_append {level : Int} {rest : List Row} (h : Ends level rest) (blocks : List Block) :
    Ends (level + 1) (rowsAll level blocks ++ rest) := by
  cases blocks with
  | nil =>
    intro r hr
    have := h r hr
    omega
  | cons b bs =>
    intro r hr
    simp only [rowsAll, List.cons_append, List.head?_cons, Option.mem_some_iff] at hr
    subst hr
    exact Int.lt_succ level

theorem Ends.ne_block {level : Int} {rest : List Row} (h : Ends level rest) {headline : String}
    {others : List Row} : rest ≠ .block level headline :: others := by
  rintro rfl
  exact Int.lt_irrefl _ (h _ rfl)

/-- The rows of blocks tell where they end. -/
def Tells (blocks : List Block) : Prop :=
  ∀ {blocks' : List Block}, WellFormed blocks' → ∀ {level : Int} {rest rest' : List Row}, Ends level rest →
    Ends level rest' → rowsAll level blocks ++ rest = rowsAll level blocks' ++ rest' →
      LooksAlike blocks blocks' ∧ rest = rest'

/-- A branch is told by its label, if what follows it has another one. -/
theorem Tells.labelled {branch branch' : List Block} (h : Tells branch) (h' : WellFormed branch') {word : String}
    {level inner : Int} (hinner : level < inner) {rest rest' : List Row}
    (apart : ∀ r ∈ rest.head?, r.level ≤ level ∧ r ≠ .label level word)
    (apart' : ∀ r ∈ rest'.head?, r.level ≤ level ∧ r ≠ .label level word)
    (heq : labelled word level branch (rowsAll inner branch) ++ rest
      = labelled word level branch' (rowsAll inner branch') ++ rest') : LooksAlike branch branch' ∧ rest = rest' := by
  have hends {rest : List Row} (apart : ∀ r ∈ rest.head?, r.level ≤ level ∧ r ≠ .label level word) :
      Ends inner rest := fun r hr => Int.lt_of_le_of_lt (apart r hr).1 hinner
  cases branch with
  | nil =>
    cases branch' with
    | nil => exact ⟨.nil, heq⟩
    | cons b' bs' =>
      obtain rfl : rest = _ := heq
      exact absurd rfl (apart _ rfl).2
  | cons b bs =>
    cases branch' with
    | nil =>
      obtain rfl : _ = rest' := heq
      exact absurd rfl (apart' _ rfl).2
    | cons b' bs' => exact h h' (hends apart) (hends apart') (List.cons.inj heq).2

theorem Ends.apart {level : Int} {rest : List Row} (h : Ends level rest) (word : String) :
    ∀ r ∈ rest.head?, r.level ≤ level ∧ r ≠ .label level word := by
  intro r hr
  have hlevel : r.level < level := h r hr
  refine ⟨Int.le_of_lt hlevel, ?_⟩
  rintro rfl
  exact Int.lt_irrefl _ hlevel

/-- The first branch of a choice ends where the second one begins, or where the choice ends. -/
theorem Ends.apart_labelled {level inner : Int} {rest : List Row} (h : Ends level rest) (branch : List Block) :
    ∀ r ∈ (Block.labelled "else:" level branch (rowsAll inner branch) ++ rest).head?,
      r.level ≤ level ∧ r ≠ .label level "then:" := by
  cases branch with
  | nil => exact h.apart "then:"
  | cons b bs =>
    rintro r hr
    obtain rfl : Row.label level "else:" = r := Option.some.inj hr
    exact ⟨Int.le_refl _, by simp⟩

/-- The first row is the headline of a block, and the rows go on with what is below that block. -/
theorem Headed.rows_cons {b : Block} (h : Headed b) {bs blocks' : List Block} (h' : WellFormed blocks') {level : Int}
    {rest rest' : List Row} (hrest' : Ends level rest')
    (heq : rowsAll level (b :: bs) ++ rest = rowsAll level blocks' ++ rest') :
    ∃ b' bs', blocks' = b' :: bs' ∧ SameHead b b' ∧
      rowsBelow level b ++ (rowsAll level bs ++ rest) = rowsBelow level b' ++ (rowsAll level bs' ++ rest') := by
  cases blocks' with
  | nil => exact absurd heq.symm hrest'.ne_block
  | cons b' bs' =>
    simp only [rowsAll, List.cons_append, List.append_assoc] at heq
    obtain ⟨hrow, hbelow⟩ := List.cons.inj heq
    exact ⟨b', bs', rfl, h.sameHead h'.headed (Row.block.inj hrow).2, hbelow⟩

/-- The headline tells the block, and the rows below it end where the level falls back. -/
theorem WellFormed.tells {blocks : List Block} (h : WellFormed blocks) : Tells blocks := by
  induction h with
  | nil =>
    intro blocks' h' level rest rest' hrest hrest' heq
    cases blocks' with
    | nil => exact ⟨.nil, heq⟩
    | cons b' bs' => exact absurd heq hrest.ne_block
  | @text content others isContent apart hothers ih =>
    intro blocks' h' level rest rest' hrest hrest' heq
    obtain ⟨b', bs', rfl, hhead, hbelow⟩ := (Headed.text content).rows_cons h' hrest' heq
    cases hhead with
    | text beginning =>
      cases h' with
      | text _ _ others' =>
        obtain ⟨hlike, hend⟩ := ih others' hrest hrest' hbelow
        exact ⟨.text beginning hlike, hend⟩
  | @directive kind children others header leaf body hothers ihBody ih =>
    intro blocks' h' level rest rest' hrest hrest' heq
    obtain ⟨b', bs', rfl, hhead, hbelow⟩ := (Headed.directive header children).rows_cons h' hrest' heq
    cases hhead with
    | directive =>
      cases h' with
      | directive _ _ body' others' =>
        obtain ⟨hbody, hafter⟩ := ihBody body' (hrest.rowsAll_append _) (hrest'.rowsAll_append _) hbelow
        obtain ⟨hlike, hend⟩ := ih others' hrest hrest' hafter
        exact ⟨.directive kind hbody hlike, hend⟩
  | @choice condition children otherwise others line first second hothers ihFirst ihSecond ih =>
    intro blocks' h' level rest rest' hrest hrest' heq
    obtain ⟨b', bs', rfl, hhead, hbelow⟩ := (Headed.choice line children otherwise).rows_cons h' hrest' heq
    cases hhead with
    | choice =>
      cases h' with
      | choice _ first' second' others' =>
        simp only [rowsBelow, List.append_assoc] at hbelow
        have hends := hrest.rowsAll_append others
        have hends' := hrest'.rowsAll_append bs'
        have hinner : level + 1 < level + 2 := by omega
        obtain ⟨hfirst, hrows⟩ :=
          ihFirst.labelled first' hinner (hends.apart_labelled _) (hends'.apart_labelled _) hbelow
        obtain ⟨hsecond, hafter⟩ := ihSecond.labelled second' hinner (hends.apart _) (hends'.apart _) hrows
        obtain ⟨hlike, hend⟩ := ih others' hrest hrest' hafter
        exact ⟨.choice condition hfirst hsecond hlike, hend⟩

/-- Two texts that can be read have the same listing just if their templates are the same up to how texts of
more than fifty characters go on, whatever the limits they were read with. -/
theorem listing_eq_iff {limit limit' : Int} {text text' : String} {blocks blocks' : List Block}
    (h : parse limit text = .ok blocks) (h' : parse limit' text' = .ok blocks') {level : Int} (hlevel : 0 ≤ level) :
    listing blocks level = listing blocks' level ↔ LooksAlike blocks blocks' := by
  have hwell := (wellFormed_of_parse h).1
  have hwell' := (wellFormed_of_parse h').1
  rw [listing_eq, listing_eq]
  constructor
  · intro heq
    have hrows := rows_inj (hwell.plain hlevel) (hwell'.plain hlevel) heq
    have hends : Ends level [] := by simp [Ends]
    have hrows : rowsAll level blocks ++ [] = rowsAll level blocks' ++ [] := by
      rw [hrows]
    exact (hwell.tells hwell' hends hends hrows).1
  · intro hlike
    rw [hlike.rowsAll_eq level]

set_option maxRecDepth 4000 in
/-- Two texts that differ in their fifty-first character, in a choice whose other branch is empty. -/
theorem listing_eq_iff_of_late_difference :
    let text := "!!% ifelse x\n01234567890123456789012345678901234567890123456789a!!% else\n%!!%!!"
    let text' := "!!% ifelse x\n01234567890123456789012345678901234567890123456789b!!% else\n%!!%!!"
    let blocks : List Block := [.choice "x" [.text "01234567890123456789012345678901234567890123456789a"] []]
    let blocks' : List Block := [.choice "x" [.text "01234567890123456789012345678901234567890123456789b"] []]
    parse 2 text = .ok blocks ∧ parse 3 text' = .ok blocks' ∧ (0 : Int) ≤ 1 ∧
      (listing blocks 1 = listing blocks' 1 ↔ LooksAlike blocks blocks') := by
  intro text text' blocks blocks'
  have h : parse 2 text = .ok blocks := by cbv
  have h' : parse 3 text' = .ok blocks' := by cbv
  exact ⟨h, h', by decide, listing_eq_iff h h' (by decide)⟩

end Stencil.Template
