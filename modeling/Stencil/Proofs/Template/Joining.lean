import Mathlib
import Stencil.Proofs.Template.Closing
import Stencil.Proofs.Template.Lowering

/-!
# Templates side by side

A text of whole lines leaves nothing open behind it, so what follows it is read as it would be alone, and
only two texts that meet become one. Main statement: the blocks of two template texts, one behind the other,
are the blocks of the first and then those of the second, and what is wrong with the second is wrong with
both together, further down.
-/
namespace Stencil.Template

open Text (Place)

/-! ### Tokens that leave nothing open -/

theorem plainBlocks_append (blocks : List Block) (items : List Item) :
    plainBlocks (itemsOf blocks ++ items) = (plainBlocks items).map (blocks ++ ·) := by
  induction blocks with
  | nil => cases h : plainBlocks items <;> simp [itemsOf, h, Except.map]
  | cons b blocks ih =>
    change (plainBlocks (itemsOf blocks ++ items) >>= fun bs => .ok (b :: bs)) = _
    rw [ih]
    cases plainBlocks items <;> rfl

/-- The tokens are read as blocks, and nothing is open behind them. -/
def ReadAs (limit : Nat) (ts : List Token) (blocks : List Block) : Prop :=
  ts.foldlM (read limit) Progress.start = .ok ⟨(itemsOf blocks).reverse, []⟩

section

variable {limit : Nat} {us : List Token} {blocks : List Block}

theorem ReadAs.of_ofTokens {e : Token} (kind : e.kind = .finish)
    (h : ofTokens limit (us ++ [e]) = .ok blocks) : ReadAs limit us blocks := by
  obtain ⟨p, hp, hplain⟩ := bind_eq_ok.1 h
  rw [List.foldlM_append] at hp
  obtain ⟨⟨root, stack⟩, hus, he⟩ := bind_eq_ok.1 hp
  rw [List.foldlM_cons] at he
  cases stack with
  | cons d stack => simp [read, kind, bind, Except.bind] at he
  | nil =>
    simp only [read, kind] at he
    cases he
    rw [ReadAs, hus, ← (plainBlocks_eq_ok_iff _ _).1 hplain, List.reverse_reverse]

/-- What follows such tokens is read as it would be alone, wherever it stands then. -/
theorem ReadAs.ofTokens_append (h : ReadAs limit us blocks) (f : Place → Place) (ts : List Token) :
    ofTokens limit (us ++ ts.map (Token.move f)) = moved f (blocks ++ ·) (ofTokens limit ts) := by
  unfold ofTokens
  rw [List.foldlM_append, h, ok_bind]
  have hread := foldlM_read_move f (itemsOf blocks).reverse limit Progress.start ts
  change (ts.map (Token.move f)).foldlM (read limit) ⟨(itemsOf blocks).reverse, []⟩ = _ at hread
  rw [hread]
  cases ts.foldlM (read limit) Progress.start with
  | error r => rfl
  | ok p =>
    change plainBlocks (p.root.map (Item.move f) ++ (itemsOf blocks).reverse).reverse = _
    rw [List.reverse_append, List.reverse_reverse, plainBlocks_append, ← List.map_reverse, plainBlocks_move,
      ok_bind]
    cases plainBlocks p.root.reverse <;> rfl

end

/-! ### Runs of text -/

/-- The blocks of a run of text: one, or none if the run is blank. -/
def textBlocks (cs : List Char) : List Block :=
  if Text.trim cs = [] then [] else [.text (String.ofList (Text.trim cs))]

theorem textBlocks_eq_nil_iff (cs : List Char) : textBlocks cs = [] ↔ ∀ c ∈ cs, Text.isBlank c = true := by
  rw [← Text.trim_eq_nil_iff, textBlocks]
  split <;> simp_all

theorem exists_text_of_textBlocks {cs : List Char} (h : textBlocks cs ≠ []) :
    ∃ content, textBlocks cs = [.text content] := by
  unfold textBlocks at h ⊢
  split
  · simp_all
  · exact ⟨_, rfl⟩

theorem ne_nil_of_textBlocks {cs : List Char} (h : textBlocks cs ≠ []) : cs ≠ [] := by
  rintro rfl
  exact h rfl

theorem textBlocks_append_of_blank_left {a : List Char} (h : textBlocks a = []) (b : List Char) :
    textBlocks (a ++ b) = textBlocks b := by
  rw [textBlocks, Text.trim_append_of_blank ((textBlocks_eq_nil_iff a).1 h), textBlocks]

theorem textBlocks_append_of_blank_right (a : List Char) {b : List Char} (h : textBlocks b = []) :
    textBlocks (a ++ b) = textBlocks a := by
  rw [textBlocks, Text.trim_append_blank _ ((textBlocks_eq_nil_iff b).1 h), textBlocks]

theorem textBlocks_append_of_ne_nil {a : List Char} (h : textBlocks a ≠ []) (b : List Char) :
    textBlocks (a ++ b) = [.text (String.ofList (Text.trim (a ++ b)))] := by
  rw [textBlocks, if_neg]
  rw [Text.trim_eq_nil_iff]
  rw [ne_eq, textBlocks_eq_nil_iff] at h
  exact fun hab => h fun c hc => hab c (List.mem_append_left b hc)

theorem read_ofText {limit : Nat} {t : Token} (kind : t.kind = .text) (p : Progress) :
    read limit p t = .ok (p.addAll (itemsOf (textBlocks t.value.toList))) := by
  rw [read_text kind, Text.strip, textBlocks]
  by_cases h : Text.trim t.value.toList = []
  · simp [h, itemsOf]
  · have hne : String.ofList (Text.trim t.value.toList) ≠ "" := by
      rw [ne_eq, ← String.toList_inj, String.toList_ofList]
      exact h
    simp [h, hne, itemsOf]

section

variable {limit : Nat} {us : List Token} {blocks : List Block}

theorem ReadAs.run (h : ReadAs limit us blocks) (p : Place) (cs : List Char) :
    ReadAs limit (us ++ Token.ofRun p cs) (blocks ++ textBlocks cs) := by
  unfold Token.ofRun
  split
  · rename_i hcs
    simpa [hcs, textBlocks, Text.trim, Text.trimStart, Text.trimEnd] using h
  · rw [ReadAs, List.foldlM_append, h, ok_bind, List.foldlM_cons, read_ofText rfl]
    simp [Progress.addAll_root, itemsOf]

theorem itemsOf_inj {a b : List Block} (h : itemsOf a = itemsOf b) : a = b := by
  have hplain := congrArg plainBlocks h
  rwa [plainBlocks_itemsOf, plainBlocks_itemsOf, Except.ok.injEq] at hplain

theorem ReadAs.of_run {p : Place} {cs : List Char} (h : ReadAs limit (us ++ Token.ofRun p cs) blocks) :
    ∃ before, ReadAs limit us before ∧ blocks = before ++ textBlocks cs := by
  unfold Token.ofRun at h
  split at h
  · rename_i hcs
    refine ⟨blocks, by simpa using h, ?_⟩
    simp [hcs, textBlocks, Text.trim, Text.trimStart, Text.trimEnd]
  · rw [ReadAs, List.foldlM_append] at h
    obtain ⟨⟨root, stack⟩, hus, h⟩ := bind_eq_ok.1 h
    rw [List.foldlM_cons, read_ofText rfl] at h
    have hadd : Progress.addAll ⟨root, stack⟩ (itemsOf (textBlocks cs)) = ⟨(itemsOf blocks).reverse, []⟩ := by
      simpa [bind, Except.bind, pure, Except.pure] using h
    obtain rfl : stack = [] := by
      have hlength := Progress.length_stack_addAll ⟨root, stack⟩ (itemsOf (textBlocks cs))
      rw [hadd] at hlength
      exact List.length_eq_zero_iff.1 hlength.symm
    rw [Progress.addAll_root, Progress.mk.injEq] at hadd
    have hitems : itemsOf blocks = root.reverse ++ itemsOf (textBlocks cs) := by
      rw [← List.reverse_inj, ← hadd.1, List.reverse_append, List.reverse_reverse]
    obtain ⟨before, last, rfl, hbefore, hlast⟩ := List.map_eq_append_iff.1 hitems
    refine ⟨before, ?_, congrArg (before ++ ·) (itemsOf_inj hlast)⟩
    rw [ReadAs, hus, itemsOf, hbefore, List.reverse_reverse]

end

/-! ### Markers and texts -/

/-- Is the last block a text? -/
def endsWithText (blocks : List Block) : Bool := startsWithText blocks.reverse

/-- A marker that leaves nothing open has closed a directive, which is what has been added last. -/
theorem root_of_read {limit : Nat} {p : Progress} {c : Token} {root : List Item}
    (kind : c.kind = .opening ∨ c.kind = .closing) (h : read limit p c = .ok ⟨root, []⟩) :
    ∃ item others, root = item :: others ∧ ∀ content, item ≠ .block (.text content) := by
  obtain ⟨items, stack⟩ := p
  obtain kind | kind := kind
  · simp only [read, kind] at h
    split at h
    · cases h
    · split at h <;> cases h
  · simp only [read, kind] at h
    cases stack with
    | nil => cases h
    | cons d stack =>
      obtain ⟨item, hclose, h⟩ := bind_eq_ok.1 h
      cases stack with
      | cons d' stack => cases h
      | nil =>
        refine ⟨item, items, (congrArg Progress.root (Except.ok.inj h)).symm, ?_⟩
        rintro content rfl
        exact not_text_of_close hclose

/-- Behind a marker no text has been read last. -/
theorem ReadAs.endsWithText_eq_false {limit : Nat} {us : List Token} {blocks : List Block}
    (h : ReadAs limit us blocks) (last : ∀ t ∈ us.getLast?, t.kind = .opening ∨ t.kind = .closing) :
    endsWithText blocks = false := by
  obtain rfl | ⟨us, c, rfl⟩ := us.eq_nil_or_concat
  · obtain rfl : [] = blocks := by
      have hroot := congrArg Progress.root (Except.ok.inj h)
      exact itemsOf_inj (List.reverse_eq_nil_iff.1 hroot.symm).symm
    rfl
  · rw [List.concat_eq_append] at h last
    rw [ReadAs, List.foldlM_append] at h
    obtain ⟨p, -, h⟩ := bind_eq_ok.1 h
    have hread : read limit p c = .ok ⟨(itemsOf blocks).reverse, []⟩ := by
      simpa using h
    obtain ⟨item, others, hroot, hitem⟩ := root_of_read (last c (by simp)) hread
    rw [itemsOf, ← List.map_reverse] at hroot
    unfold endsWithText
    cases hb : blocks.reverse with
    | nil => rfl
    | cons b before =>
      rw [hb, List.map_cons, List.cons.injEq] at hroot
      cases b with
      | text content => exact absurd hroot.1.symm (hitem content)
      | directive | choice | foreign => rfl

/-- From a marker on no text is read first. -/
theorem startsWithText_of_ofTokens {limit : Nat} {ts : List Token} {blocks : List Block} (ended : Ended ts)
    (first : ∀ t ∈ ts.head?, t.kind ≠ .text) (h : ofTokens limit ts = .ok blocks) :
    startsWithText blocks = false := by
  rw [ofTokens_eq_descendTokens limit ended] at h
  obtain ⟨rest, reading⟩ := reads_of_descendTokens h
  cases blocks with
  | nil => rfl
  | cons b bs =>
    cases reading with
    | blank kind => exact absurd kind (first _ rfl)
    | text kind => exact absurd kind (first _ rfl)
    | directive _ _ _ inner _ verdict =>
      cases b with
      | text content => exact absurd (inner.close_of_judge verdict) not_text_of_close
      | directive | choice | foreign => rfl

/-! ### The parts of two texts -/

/-- The runs of text in a template text. -/
def Token.texts (text : String) : List String :=
  match scan text with
  | .ok ts => (ts.filter (·.kind = .text)).map Token.value
  | .error _ => []

/-- The same error for a text with `lines` further lines in front. -/
inductive Lowered (lines : Nat) : Error → Error → Prop
  | malformed (m : Malformed) : Lowered lines (.malformed m) (.malformed { m with line := m.line + lines })
  | tooDeep (limit : Int) (line : Nat) :
    Lowered lines (.tooDeep limit s!"parsing line {line}") (.tooDeep limit s!"parsing line {line + lines}")

/-- The blocks behind the first run of a text. -/
def behindRun (limit : Nat) (text : String) : Except Error (List Block) :=
  match Token.scanFrom (Place.start.advance (Token.run text.toList)) (Token.afterRun text.toList) with
  | .ok ts => (ofTokens limit ts).mapError (Refusal.toError limit text)
  | .error m => .error (.malformed m)

section

variable {limit : Nat}

theorem ReadAs.nil : ReadAs limit [] [] := rfl

theorem head?_texts {text : String} {after : List Block} (h : behindRun limit text = .ok after)
    (hne : Token.run text.toList ≠ []) :
    (Token.texts text).head? = some (String.ofList (Token.run text.toList)) := by
  rw [Token.texts, Token.scan, Token.scanFrom_eq_run, Token.ofRun, if_neg hne]
  unfold behindRun at h
  split at h
  · rename_i ts hscan
    rw [hscan, Token.followedByAll_ok]
    simp
  · cases h

theorem parseWithin_eq_behindRun (limit : Nat) (text : String) :
    parseWithin limit text = (behindRun limit text).map (textBlocks (Token.run text.toList) ++ ·) := by
  have hrun := (ReadAs.nil : ReadAs limit [] []).run Place.start (Token.run text.toList)
  rw [parseWithin, behindRun, Token.scan, Token.scanFrom_eq_run]
  cases Token.scanFrom (Place.start.advance (Token.run text.toList)) (Token.afterRun text.toList) with
  | error m => rw [Token.followedByAll_error]; rfl
  | ok ts =>
    rw [Token.followedByAll_ok]
    have hts : ts.map (Token.move id) = ts := List.map_id ts
    have happend := hrun.ofTokens_append id ts
    rw [hts, moved_id, List.nil_append, List.nil_append] at happend
    simp only [happend]
    cases ofTokens limit ts <;> rfl

theorem startsWithText_behindRun {text : String} {blocks : List Block}
    (h : behindRun limit text = .ok blocks) : startsWithText blocks = false := by
  unfold behindRun at h
  split at h
  · rename_i ts hscan
    exact startsWithText_of_ofTokens (ended_of_scanFrom hscan)
      (Token.kind_of_scanFrom (Token.runEnds_afterRun _) hscan) (mapError_eq_ok.1 h)
  · cases h

variable {a : String}

theorem getLast?_texts {us : List Token} {q : Place} {tail : List Char}
    (seam : Token.Seam Place.start a.toList us q tail) (hne : tail ≠ []) :
    (Token.texts a).getLast? = some (String.ofList tail) := by
  rw [Token.texts, Token.scan, seam.scanFrom_eq, Token.ofRun, if_neg hne]
  simp [List.filter_append]

variable (lines : Token.EndsLine a.toList)

include lines

theorem exists_front {blocks : List Block} (h : parseWithin limit a = .ok blocks) :
    ∃ us q tail before, Token.Seam Place.start a.toList us q tail ∧ ReadAs limit us before ∧
      blocks = before ++ textBlocks tail := by
  obtain ⟨us, q, tail, seam⟩ := Token.exists_seam Place.start lines
  rw [parseWithin, Token.scan, seam.scanFrom_eq] at h
  obtain ⟨before, hbefore, rfl⟩ := (ReadAs.of_ofTokens rfl (mapError_eq_ok.1 h)).of_run
  exact ⟨us, q, tail, before, seam, hbefore, rfl⟩

/-- Two texts are read as the blocks of the first up to its last run, the blocks of the run where they meet,
and those of the second behind its first run. -/
theorem parseWithin_append {us : List Token} {q : Place} {tail : List Char} {before : List Block}
    (seam : Token.Seam Place.start a.toList us q tail) (read : ReadAs limit us before) (b : String) :
    match behindRun limit b with
    | .ok after =>
      parseWithin limit (a ++ b) = .ok (before ++ textBlocks (tail ++ Token.run b.toList) ++ after)
    | .error e => ∃ e', Lowered (a.toList.count '\n') e e' ∧ parseWithin limit (a ++ b) = .error e' := by
  have hplace : (Place.start.advance a.toList).advance (Token.run b.toList)
      = (Place.start.advance (Token.run b.toList)).lower a.toList.length (a.toList.count '\n') := by
    rw [Place.advance_of_endsLine lines, Place.advance_lower]
  have hread := read.run q (tail ++ Token.run b.toList)
  rw [parseWithin, Token.scan, String.toList_append, seam.scanFrom_append, hplace, Token.scanFrom_lower,
    behindRun]
  cases Token.scanFrom (Place.start.advance (Token.run b.toList)) (Token.afterRun b.toList) with
  | error m =>
    rw [Token.lowered, Token.followedByAll_error]
    exact ⟨_, .malformed m, rfl⟩
  | ok ts =>
    rw [Token.lowered, Token.followedByAll_ok]
    simp only [hread.ofTokens_append]
    cases ofTokens limit ts with
    | ok after => rfl
    | error r =>
      cases r with
      | tooDeep t => exact ⟨_, .tooDeep limit t.place.line, rfl⟩
      | flawed flaw t =>
        refine ⟨_, .malformed _, ?_⟩
        simp [moved, Except.map, Except.mapError, Refusal.move, Refusal.toError, Token.move, Place.lower,
          List.drop_append]

end

/-! ### Two texts -/

/-- Runs that meet are read apart unless both are texts. -/
theorem textBlocks_append {x y : List Char} {before after : List Block}
    (apart : ¬ (endsWithText (before ++ textBlocks x) = true ∧
      startsWithText (textBlocks y ++ after) = true)) :
    textBlocks (x ++ y) = textBlocks x ++ textBlocks y := by
  by_cases hx : textBlocks x = []
  · rw [textBlocks_append_of_blank_left hx, hx, List.nil_append]
  · by_cases hy : textBlocks y = []
    · rw [textBlocks_append_of_blank_right _ hy, hy, List.append_nil]
    · obtain ⟨last, hx⟩ := exists_text_of_textBlocks hx
      obtain ⟨first, hy⟩ := exists_text_of_textBlocks hy
      rw [hx, hy] at apart
      exact absurd ⟨by simp [endsWithText, startsWithText], rfl⟩ apart

/-- A text at the end is what the last run is read as. -/
theorem append_textBlocks_eq {cs : List Char} {before front : List Block} {content : String}
    (hbefore : endsWithText before = false) (h : before ++ textBlocks cs = front ++ [.text content]) :
    textBlocks cs ≠ [] ∧ before = front := by
  have hne : textBlocks cs ≠ [] := by
    intro hnil
    rw [hnil, List.append_nil] at h
    simp [h, endsWithText, startsWithText] at hbefore
  obtain ⟨last, hlast⟩ := exists_text_of_textBlocks hne
  rw [hlast] at h
  exact ⟨hne, (List.append_inj' h rfl).1⟩

/-- A text at the start is what the first run is read as. -/
theorem textBlocks_append_eq {cs : List Char} {after behind : List Block} {content : String}
    (hafter : startsWithText after = false) (h : textBlocks cs ++ after = .text content :: behind) :
    textBlocks cs ≠ [] ∧ after = behind := by
  have hne : textBlocks cs ≠ [] := by
    intro hnil
    rw [hnil, List.nil_append] at h
    rw [h] at hafter
    cases hafter
  obtain ⟨first, hfirst⟩ := exists_text_of_textBlocks hne
  rw [hfirst] at h
  exact ⟨hne, (List.cons.inj h).2⟩

/-- Templates compose at the ends of lines. Behind whole lines that can be read, a text is read as it would be
alone, and only two texts that meet become one. If it cannot be read alone, then neither can both together,
for the same error further down. -/
theorem parse_append {limit : Int} {a : String} {blocks : List Block} (lines : Token.EndsLine a.toList)
    (ha : parse limit a = .ok blocks) (b : String) :
    (∀ blocks', parse limit b = .ok blocks' → ¬ (endsWithText blocks = true ∧ startsWithText blocks' = true) →
      parse limit (a ++ b) = .ok (blocks ++ blocks')) ∧
    (∀ front content content' behind, blocks = front ++ [.text content] →
      parse limit b = .ok (.text content' :: behind) →
      ∃ last first, (Token.texts a).getLast? = some last ∧ (Token.texts b).head? = some first ∧
        parse limit (a ++ b) = .ok (front ++ .text (Text.strip (last ++ first)) :: behind)) ∧
    ∀ e, parse limit b = .error e →
      ∃ e', Lowered (a.toList.count '\n') e e' ∧ parse limit (a ++ b) = .error e' := by
  have hlimit := one_le_of_parse ha
  simp only [parse_eq_parseWithin hlimit] at ha ⊢
  obtain ⟨us, q, tail, before, seam, read, rfl⟩ := exists_front lines ha
  have whole := parseWithin_append lines seam read b
  cases hbehind : behindRun limit.toNat b with
  | error e =>
    rw [hbehind] at whole
    have second : parseWithin limit.toNat b = .error e := by
      rw [parseWithin_eq_behindRun, hbehind]
      rfl
    simp only [second]
    refine ⟨nofun, nofun, ?_⟩
    rintro _ ⟨⟩
    exact whole
  | ok after =>
    rw [hbehind] at whole
    have second : parseWithin limit.toNat b = .ok (textBlocks (Token.run b.toList) ++ after) := by
      rw [parseWithin_eq_behindRun, hbehind]
      rfl
    simp only [second, whole]
    refine ⟨?_, ?_, nofun⟩
    · rintro _ ⟨⟩ apart
      rw [textBlocks_append apart, List.append_assoc, List.append_assoc, List.append_assoc]
    · intro front content content' behind hfront hbehind'
      obtain ⟨hlast, rfl⟩ := append_textBlocks_eq (read.endsWithText_eq_false seam.last) hfront
      obtain ⟨hfirst, rfl⟩ := textBlocks_append_eq (startsWithText_behindRun hbehind) (Except.ok.inj hbehind')
      refine ⟨_, _, getLast?_texts seam (ne_nil_of_textBlocks hlast),
        head?_texts hbehind (ne_nil_of_textBlocks hfirst), ?_⟩
      rw [textBlocks_append_of_ne_nil hlast]
      simp [Text.strip]

/-- A template that ends with a text, and one that begins with a text. -/
theorem parse_meeting_texts :
    let a := "!!% if x\ny\n%!!\n z\n"
    let b := "w \n!!% p\n%!!"
    Token.EndsLine a.toList ∧
      parse 2 a = .ok ([.directive (.guard "x") [.text "y"]] ++ [.text "z"]) ∧
      parse 2 b = .ok [.text "w", .directive (.group "p") []] ∧
      ∃ last first, (Token.texts a).getLast? = some last ∧ (Token.texts b).head? = some first ∧
        parse 2 (a ++ b) = .ok ([.directive (.guard "x") [.text "y"]]
          ++ .text (Text.strip (last ++ first)) :: [.directive (.group "p") []]) := by
  intro a b
  have lines : Token.EndsLine a.toList := by decide
  have ha : parse 2 a = .ok ([.directive (.guard "x") [.text "y"]] ++ [.text "z"]) := by cbv
  have hb : parse 2 b = .ok [.text "w", .directive (.group "p") []] := by cbv
  exact ⟨lines, ha, hb, (parse_append lines ha b).2.1 _ _ _ _ rfl hb⟩

end Stencil.Template
