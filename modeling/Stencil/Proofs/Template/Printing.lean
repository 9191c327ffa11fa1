import Mathlib.Logic.Relation
import Stencil.Proofs.Template.Cutting
import Stencil.Proofs.Template.Reading

/-!
# Reading what has been printed

Every block is printed as lines of its own: a text with its line feed, a directive with its header and the
closing marker around its children. Main statement: what is printed from a well-formed template is read as
that template, at every limit that its nesting fits in.
-/
namespace Stencil.Template

open Header (Keyword)
open Text (Place)

/-! ### The printer -/

/-- The lines of a directive. -/
def enclose (header body : String) : String := "!!% " ++ header ++ "\n" ++ body ++ "%!!\n"

/-- The header that spells a directive. -/
def Directive.header : Directive → String
  | group header => header
  | kind => kind.describe

namespace Block

mutual
/-- A block as template text. Blocks of kinds without meaning have no text. -/
def print : Block → String
  | text content => content ++ "\n"
  | directive kind children => enclose kind.header (printAll children)
  | choice condition children otherwise =>
    enclose (describeChoice condition) (printAll children ++ enclose "else" "" ++ printAll otherwise)
  | foreign _ => ""

/-- A sequence of blocks as template text. -/
def printAll : List Block → String
  | [] => ""
  | b :: bs => print b ++ printAll bs
end

end Block

open Block (print printAll nesting nestings)

theorem toList_enclose (header body : String) :
    (enclose header body).toList = Token.openMark ++ (' ' :: header.toList ++ '\n' ::
      (body.toList ++ (Token.closeMark ++ ['\n']))) := by
  simp [enclose, Token.openMark, Token.closeMark]

/-- Only a text lets a run of text go on. -/
theorem runEnds_printAll {blocks : List Block} (h : WellFormed blocks) (first : startsWithText blocks = false)
    {rest : List Char} (ends : Token.RunEnds rest) : Token.RunEnds ((printAll blocks).toList ++ rest) := by
  cases h with
  | nil => simpa [printAll] using ends
  | text => cases first
  | directive =>
    rw [printAll, print, String.toList_append, toList_enclose, List.append_assoc, List.append_assoc]
    exact Token.runEnds_openMark _
  | choice =>
    rw [printAll, print, String.toList_append, toList_enclose, List.append_assoc, List.append_assoc]
    exact Token.runEnds_openMark _

/-! ### Headers that close to their directive -/

/-- The items of a body without separators. -/
def itemsOf (blocks : List Block) : List Item := blocks.map .block

@[simp] theorem separatorsOf_itemsOf (blocks : List Block) : separatorsOf (itemsOf blocks) = [] := by
  induction blocks with
  | nil => rfl
  | cons b blocks ih => exact ih

@[simp] theorem plainBlocks_itemsOf (blocks : List Block) : plainBlocks (itemsOf blocks) = .ok blocks := by
  have hblocks : blocksOf (itemsOf blocks) = blocks := by
    induction blocks with
    | nil => rfl
    | cons b blocks ih => exact congrArg (b :: ·) ih
  rw [plainBlocks_eq (separatorsOf_itemsOf blocks), hblocks]

theorem splitAtSeparator_itemsOf (blocks : List Block) (e : Token) (items : List Item) :
    splitAtSeparator (itemsOf blocks ++ .separator e :: items) = some (itemsOf blocks, items) := by
  induction blocks with
  | nil => rfl
  | cons b blocks ih => exact congrArg (Option.map _) ih

theorem header_guard (condition : String) :
    (Directive.guard condition).header = Keyword.guard.word ++ " " ++ condition := rfl

theorem header_inclusion (path : String) :
    (Directive.inclusion path).header = Keyword.inclusion.word ++ " " ++ path := rfl

theorem header_transform (name expression : String) :
    (Directive.transform name expression).header
      = Keyword.transform.word ++ " " ++ (name ++ ": " ++ expression) := by
  change "transform " ++ name ++ ": " ++ expression = _
  simp [← String.toList_inj, Keyword.word]

theorem describeChoice_eq (condition : String) :
    describeChoice condition = Keyword.choice.word ++ " " ++ condition := rfl

theorem Directive.WellFormed.isLine_header {kind : Directive} (h : kind.WellFormed) : IsLine kind.header := by
  cases h with
  | group line => exact line
  | guard line => exact isLine_keyword .guard line
  | inclusion line => exact isLine_keyword .inclusion line
  | transform isName line =>
    rw [header_transform]
    exact isLine_keyword .transform (isName.isLine_append line)

theorem close_directive {t : Token} {kind : Directive} {children : List Block} (h : kind.WellFormed)
    (leaf : ∀ path, kind = .inclusion path → children = []) (ht : t.value = kind.header) (inChoice : Bool) :
    close t (itemsOf children) inChoice = .ok (.block (.directive kind children)) := by
  unfold close
  rw [ht]
  cases h with
  | @group header line free =>
    have hk := (keyword?_eq_none_iff _).2 free
    simp only [Directive.header, hk, plainBlocks_itemsOf]
    rfl
  | @guard condition line =>
    rw [header_guard, split_keyword .guard line.trimmed]
    simp only [keyword?_word, requireArgument_bind, line.nonempty, if_false, plainBlocks_itemsOf]
    rfl
  | @inclusion path line =>
    obtain rfl := leaf path rfl
    rw [header_inclusion, split_keyword .inclusion line.trimmed]
    simp only [keyword?_word, requireArgument_bind, line.nonempty, if_false]
    rfl
  | @transform name expression isName line =>
    have hline := isName.isLine_append line
    rw [header_transform, split_keyword .transform hline.trimmed]
    simp only [keyword?_word, requireArgument_bind, hline.nonempty, if_false,
      splitTransform_eq isName line, plainBlocks_itemsOf]
    rfl

theorem close_choice {t e : Token} {condition : String} (line : IsLine condition)
    (ht : t.value = describeChoice condition) (children otherwise : List Block) (inChoice : Bool) :
    close t (itemsOf children ++ .separator e :: itemsOf otherwise) inChoice
      = .ok (.block (.choice condition children otherwise)) := by
  unfold close
  rw [ht, describeChoice_eq, split_keyword .choice line.trimmed]
  simp only [keyword?_word, requireArgument_bind, line.nonempty, if_false, splitAtSeparator_itemsOf,
    firstSeparator?_eq, separatorsOf_itemsOf, List.head?_nil, plainBlocks_itemsOf]
  rfl

theorem close_else {t : Token} (ht : t.value = "else") : close t [] true = .ok (.separator t) := by
  unfold close
  rw [ht]
  rfl

/-! ### Reading, token by token -/

namespace Progress

theorem insideChoice_enter (q : Progress) {t : Token} {condition : String} (line : IsLine condition)
    (ht : t.value = describeChoice condition) : insideChoice (q.enter t).stack = true := by
  rw [insideChoice_stack_enter, opensChoice, ht, describeChoice_eq, split_keyword .choice line.trimmed]
  rfl

end Progress

/-- Where reading is: the place, the text still to read, and what has been read. -/
structure Reader where
  place : Place
  rest : List Char
  progress : Progress

namespace Reader

/-- One token is scanned and read. -/
def Step (limit : Nat) (r s : Reader) : Prop :=
  ∃ t : Token, Token.scanFrom r.place r.rest = Token.followedBy t (Token.scanFrom s.place s.rest) ∧
    read limit r.progress t = .ok s.progress

/-- Some tokens are scanned and read. -/
def Leads (limit : Nat) : Reader → Reader → Prop := Relation.ReflTransGen (Step limit)

/-- What a closing marker leaves of its line. -/
def Pending (before : List Char) : Prop := before = [] ∨ before = ['\n']

variable (limit : Nat)

theorem Leads.scanned {r s : Reader} (h : Leads limit r s) {ts : List Token}
    (hs : Token.scanFrom s.place s.rest = .ok ts) :
    ∃ us, Token.scanFrom r.place r.rest = .ok us ∧
      us.foldlM (read limit) r.progress = ts.foldlM (read limit) s.progress := by
  induction h using Relation.ReflTransGen.head_induction_on with
  | refl => exact ⟨ts, hs, rfl⟩
  | head step _ ih =>
    obtain ⟨t, hscan, hread⟩ := step
    obtain ⟨us, hus, hfold⟩ := ih
    refine ⟨t :: us, ?_, ?_⟩
    · rw [hscan, hus]
      rfl
    · rw [List.foldlM_cons, hread, ok_bind, hfold]

theorem step_blank (p : Place) (q : Progress) {rest : List Char} (ends : Token.RunEnds rest) :
    ∃ p', Step limit ⟨p, '\n' :: rest, q⟩ ⟨p', rest, q⟩ := by
  refine ⟨_, _, Token.scanFrom_line p Token.Unmarked.nil ends, ?_⟩
  simp [read, Text.strip, Text.trim, Text.trimStart, Text.isBlank, Text.trimEnd]

theorem leads_pending (p : Place) (q : Progress) {before rest : List Char} (pending : Pending before)
    (ends : Token.RunEnds rest) : ∃ p', Leads limit ⟨p, before ++ rest, q⟩ ⟨p', rest, q⟩ := by
  obtain rfl | rfl := pending
  · exact ⟨p, .refl⟩
  · obtain ⟨p', step⟩ := step_blank limit p q ends
    exact ⟨p', .single step⟩

theorem step_text (p : Place) (q : Progress) {content : String} (h : IsContent content)
    {before rest : List Char} (pending : Pending before) (ends : Token.RunEnds rest) :
    ∃ p', Step limit ⟨p, before ++ (content.toList ++ '\n' :: rest), q⟩
      ⟨p', rest, q.add (.block (.text content))⟩ := by
  -- The line feed before a text runs together with it and is trimmed away.
  have unmarked : Token.Unmarked (before ++ content.toList) := by
    obtain rfl | rfl := pending
    · exact h.unmarked
    · exact h.unmarked.lineFeed
  have blank : ∀ c ∈ before, Text.isBlank c = true := by
    obtain rfl | rfl := pending
    · simp
    · simp [Text.isBlank]
  have strip : Text.strip (String.ofList (before ++ content.toList ++ ['\n'])) = content := by
    rw [Text.strip, String.toList_ofList, Text.trim_between_blanks blank _ (by simp [Text.isBlank]),
      (strip_eq_iff content).1 h.trimmed, String.ofList_toList]
  have scan := Token.scanFrom_line p unmarked ends
  rw [List.append_assoc] at scan
  refine ⟨_, _, scan, ?_⟩
  rw [read_text rfl]
  simp only [strip, h.nonempty, if_false]

theorem step_opening (p : Place) (q : Progress) {header : String} (h : IsLine header)
    (room : q.stack.length < limit) (rest : List Char) :
    ∃ p', Step limit ⟨p, Token.openMark ++ (' ' :: header.toList ++ '\n' :: rest), q⟩
      ⟨p', rest, q.enter ⟨.opening, header, p⟩⟩ := by
  have line : '\n' ∉ ' ' :: header.toList := by
    simpa using h.oneLine
  have value : String.ofList (Text.trim (' ' :: header.toList)) = header := by
    rw [Text.trim_cons_of_blank (by decide), (strip_eq_iff header).1 h.trimmed, String.ofList_toList]
  refine ⟨_, _, Token.scanFrom_opening p line rest, ?_⟩
  rw [value]
  exact read_opening rfl room h.nonempty

theorem step_closing (p : Place) (q : Progress) {t : Token} {items : List Item} {item : Item}
    (h : close t items (insideChoice q.stack) = .ok item) (rest : List Char) :
    ∃ p', Step limit ⟨p, Token.closeMark ++ rest, (q.enter t).addAll items⟩ ⟨p', rest, q.add item⟩ := by
  refine ⟨_, _, Token.scanFrom_closing p rest, ?_⟩
  rw [read_closing rfl, h]
  rfl

/-- Inside a directive with this header, the body is read as items with which the directive closes to
`item`. -/
def ClosesTo (q : Progress) (header body : String) (item : Token → Item) : Prop :=
  ∀ t : Token, t.value = header → ∀ (p : Place) (rest : List Char), Token.RunEnds rest →
    ∃ p' items, Leads limit ⟨p, body.toList ++ rest, q.enter t⟩ ⟨p', rest, (q.enter t).addAll items⟩ ∧
      close t items (insideChoice q.stack) = .ok (item t)

theorem leads_enclose (p : Place) (q : Progress) {header body : String} {item : Token → Item}
    (line : IsLine header) (room : q.stack.length < limit) (inner : ClosesTo limit q header body item)
    {before : List Char} (pending : Pending before) (rest : List Char) :
    ∃ p' t, Leads limit ⟨p, before ++ ((enclose header body).toList ++ rest), q⟩
      ⟨p', '\n' :: rest, q.add (item t)⟩ := by
  obtain ⟨p₁, h₁⟩ := leads_pending limit p q pending (Token.runEnds_openMark
    (' ' :: header.toList ++ '\n' :: (body.toList ++ (Token.closeMark ++ '\n' :: rest))))
  obtain ⟨p₂, h₂⟩ := step_opening limit p₁ q line room (body.toList ++ (Token.closeMark ++ '\n' :: rest))
  obtain ⟨p₃, items, h₃, closes⟩ := inner ⟨.opening, header, p₁⟩ rfl p₂ _
    (Token.runEnds_closeMark ('\n' :: rest))
  obtain ⟨p₄, h₄⟩ := step_closing limit p₃ q closes ('\n' :: rest)
  have lines : before ++ ((enclose header body).toList ++ rest) = before ++ (Token.openMark ++
      (' ' :: header.toList ++ '\n' :: (body.toList ++ (Token.closeMark ++ '\n' :: rest)))) := by
    rw [toList_enclose]
    simp
  rw [lines]
  exact ⟨p₄, _, ((h₁.tail h₂).trans h₃).tail h₄⟩

/-! ### Printed blocks are read back -/

/-- Blocks are read from their lines, whatever is open around them and whatever follows their last line. -/
def ReadsBack (blocks : List Block) : Prop :=
  ∀ (p : Place) (q : Progress) (before rest : List Char), q.stack.length + nestings blocks ≤ limit →
    Pending before → Token.RunEnds rest →
    ∃ p', Leads limit ⟨p, before ++ ((printAll blocks).toList ++ rest), q⟩
      ⟨p', rest, q.addAll (itemsOf blocks)⟩

variable {limit}

theorem readsBack_nil : ReadsBack limit [] := by
  intro p q before rest _ pending ends
  exact leads_pending limit p q pending ends

theorem readsBack_text {content : String} {others : List Block} (isContent : IsContent content)
    (next : ∀ rest, Token.RunEnds rest → Token.RunEnds ((printAll others).toList ++ rest))
    (hothers : ReadsBack limit others) : ReadsBack limit (.text content :: others) := by
  intro p q before rest room pending ends
  obtain ⟨p₁, h₁⟩ := step_text limit p q isContent pending (next rest ends)
  obtain ⟨p₂, h₂⟩ := hothers p₁ (q.add (.block (.text content))) [] rest
    (by simpa [nestings, nesting] using room) (.inl rfl) ends
  have lines : (printAll (.text content :: others)).toList ++ rest
      = content.toList ++ '\n' :: ((printAll others).toList ++ rest) := by
    simp [printAll, print]
  rw [lines]
  exact ⟨p₂, .head h₁ h₂⟩

theorem readsBack_directive {kind : Directive} {children others : List Block} (header : kind.WellFormed)
    (leaf : ∀ path, kind = .inclusion path → children = []) (hbody : ReadsBack limit children)
    (hothers : ReadsBack limit others) : ReadsBack limit (.directive kind children :: others) := by
  intro p q before rest room pending ends
  simp only [nestings, nesting] at room
  have inner : ClosesTo limit q kind.header (printAll children)
      (fun _ => .block (.directive kind children)) := by
    intro t ht p rest ends
    obtain ⟨p', h⟩ := hbody p (q.enter t) [] rest (by simp; omega) (.inl rfl) ends
    exact ⟨p', _, h, close_directive header leaf ht _⟩
  obtain ⟨p₁, -, h₁⟩ := leads_enclose limit p q header.isLine_header (by omega) inner pending
    ((printAll others).toList ++ rest)
  obtain ⟨p₂, h₂⟩ := hothers p₁ (q.add (.block (.directive kind children))) ['\n'] rest
    (by simp; omega) (.inr rfl) ends
  rw [printAll, print, String.toList_append, List.append_assoc]
  exact ⟨p₂, h₁.trans h₂⟩

theorem closesTo_separator {q : Progress} (inside : insideChoice q.stack = true) :
    ClosesTo limit q "else" "" .separator := by
  intro t ht p rest _
  refine ⟨p, [], .refl, ?_⟩
  rw [inside]
  exact close_else ht

/-- The two branches of a choice and the separator between them. -/
theorem closesTo_choice {condition : String} {children otherwise : List Block} (line : IsLine condition)
    (hfirst : ReadsBack limit children) (hsecond : ReadsBack limit otherwise) (q : Progress)
    (room : q.stack.length + nesting (.choice condition children otherwise) ≤ limit) :
    ClosesTo limit q (describeChoice condition)
      (printAll children ++ enclose "else" "" ++ printAll otherwise)
      (fun _ => .block (.choice condition children otherwise)) := by
  intro t ht p rest ends
  simp only [nesting] at room
  have lines : (printAll children ++ enclose "else" "" ++ printAll otherwise).toList ++ rest
      = (printAll children).toList ++ ((enclose "else" "").toList ++ ((printAll otherwise).toList ++ rest)) := by
    simp
  have separates : Token.RunEnds ((enclose "else" "").toList ++ ((printAll otherwise).toList ++ rest)) := by
    rw [toList_enclose, List.append_assoc]
    exact Token.runEnds_openMark _
  have inside : insideChoice ((q.enter t).addAll (itemsOf children)).stack = true := by
    rw [Progress.insideChoice_stack_addAll, q.insideChoice_enter line ht]
  -- The separator stands one level below the choice, among the items of its body.
  obtain ⟨p₁, h₁⟩ := hfirst p (q.enter t) [] _ (by simp; omega) (.inl rfl) separates
  obtain ⟨p₂, e, h₂⟩ := leads_enclose limit p₁ ((q.enter t).addAll (itemsOf children)) (by decide)
    (by simp; omega) (closesTo_separator inside) (.inl rfl) ((printAll otherwise).toList ++ rest)
  obtain ⟨p₃, h₃⟩ := hsecond p₂ (((q.enter t).addAll (itemsOf children)).add (.separator e)) ['\n'] rest
    (by simp; omega) (.inr rfl) ends
  refine ⟨p₃, itemsOf children ++ .separator e :: itemsOf otherwise, ?_, close_choice line ht _ _ _⟩
  rw [lines, Progress.addAll_append, Progress.addAll_cons]
  exact (h₁.trans h₂).trans h₃

theorem readsBack_choice {condition : String} {children otherwise others : List Block}
    (line : IsLine condition) (hfirst : ReadsBack limit children) (hsecond : ReadsBack limit otherwise)
    (hothers : ReadsBack limit others) :
    ReadsBack limit (.choice condition children otherwise :: others) := by
  intro p q before rest room pending ends
  simp only [nestings] at room
  have hroom : q.stack.length < limit := by
    simp only [nesting] at room
    omega
  have inner := closesTo_choice line hfirst hsecond q (by omega)
  obtain ⟨p₁, -, h₁⟩ := leads_enclose limit p q (isLine_keyword .choice line) hroom inner pending
    ((printAll others).toList ++ rest)
  obtain ⟨p₂, h₂⟩ := hothers p₁ (q.add (.block (.choice condition children otherwise))) ['\n'] rest
    (by simp; omega) (.inr rfl) ends
  rw [printAll, print, String.toList_append, List.append_assoc]
  exact ⟨p₂, h₁.trans h₂⟩

theorem readsBack_of_wellFormed {blocks : List Block} (h : WellFormed blocks) : ReadsBack limit blocks := by
  induction h with
  | nil => exact readsBack_nil
  | text isContent apart hothers ih =>
    exact readsBack_text isContent (fun _ ends => runEnds_printAll hothers apart ends) ih
  | directive header leaf _ _ ihbody ih => exact readsBack_directive header leaf ihbody ih
  | choice line _ _ _ ihfirst ihsecond ih => exact readsBack_choice line ihfirst ihsecond ih

end Reader

theorem ofTokens_printAll {blocks : List Block} (h : WellFormed blocks) (limit : Nat)
    (room : nestings blocks ≤ limit) :
    ∃ tokens, Token.scan (printAll blocks) = .ok tokens ∧ ofTokens limit tokens = .ok blocks := by
  obtain ⟨p, leads⟩ := Reader.readsBack_of_wellFormed h Place.start Progress.start [] []
    (by simpa [Progress.start] using room) (.inl rfl) (.inl rfl)
  have hfinish : Token.scanFrom p [] = .ok [⟨.finish, "", p⟩] := by rw [Token.scanFrom]
  obtain ⟨tokens, hscan, hfold⟩ := leads.scanned limit hfinish
  rw [List.nil_append, List.append_nil] at hscan
  refine ⟨tokens, hscan, ?_⟩
  rw [ofTokens, hfold, Progress.start, Progress.addAll_root, List.append_nil]
  simp only [List.foldlM_cons, List.foldlM_nil, read]
  change plainBlocks (itemsOf blocks).reverse.reverse = .ok blocks
  rw [List.reverse_reverse, plainBlocks_itemsOf]

/-- What is printed from a well-formed template is read as that template. -/
theorem parse_printAll {blocks : List Block} (h : WellFormed blocks) {limit : Int} (positive : 1 ≤ limit)
    (room : (nestings blocks : Int) ≤ limit) : parse limit (printAll blocks) = .ok blocks := by
  obtain ⟨tokens, hscan, hblocks⟩ := ofTokens_printAll h limit.toNat (by omega)
  have hlimit : checkLimit limit = .ok limit.toNat := by
    rw [checkLimit, if_neg (Int.not_lt.2 positive)]
  unfold parse parseWithin
  simp only [hlimit, ok_bind, hscan, hblocks]
  rfl

/-- A remark that looks like markers, around a choice with a transform and an inclusion. -/
def remarked : List Block :=
  [.directive (.group "see !!% and %!!") [
    .choice "%!! else" [.directive (.transform "x_1" "a: b") [.text "if !! %\n!%"], .text "!!"]
      [.directive (.inclusion "ifelse !!%") []],
    .text "%"]]

theorem remarked_wellFormed : WellFormed remarked := by
  have remark : (Directive.group "see !!% and %!!").WellFormed := .group (by decide) (by decide)
  have transform : (Directive.transform "x_1" "a: b").WellFormed :=
    .transform ⟨⟨'x', ['_', '1'], rfl, rfl⟩, by decide⟩ (by decide)
  have inclusion : (Directive.inclusion "ifelse !!%").WellFormed := .inclusion (by decide)
  have first : WellFormed [.directive (.transform "x_1" "a: b") [.text "if !! %\n!%"], .text "!!"] :=
    .directive transform (by simp) (.text (by decide) rfl .nil) (.text (by decide) rfl .nil)
  have second : WellFormed [.directive (.inclusion "ifelse !!%") []] :=
    .directive inclusion (fun _ _ => rfl) .nil .nil
  refine .directive remark (by simp) ?_ .nil
  exact .choice (by decide) first second (.text (by decide) rfl .nil)

theorem parse_remarked : WellFormed remarked ∧ (1 : Int) ≤ 3 ∧ ((nestings remarked : Nat) : Int) ≤ 3 ∧
    parse 3 (printAll remarked) = .ok remarked := by
  have h := remarked_wellFormed
  exact ⟨h, by decide, by decide, parse_printAll h (by decide) (by decide)⟩

end Stencil.Template
