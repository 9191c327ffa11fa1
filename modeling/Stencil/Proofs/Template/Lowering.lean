import Stencil.Proofs.Template.Seams

/-!
# Reading further down

The scanner moves places by the characters it has read. The reader of tokens keeps places only to blame
them, and never looks back at what it has added to the top level. Main statements: a text that begins further
down has the same tokens, that far down each, and tokens that have been moved are read alike over whatever
has been read before, or refused for the same flaw.
-/
namespace Stencil

namespace Text.Place

/-- The place where `p` is when `offset` characters with `lines` line feeds stand in front of the text. -/
def lower (p : Place) (offset lines : Nat) : Place := ⟨p.offset + offset, p.line + lines, p.column⟩

theorem step_lower (p : Place) (offset lines : Nat) (c : Char) :
    (p.lower offset lines).step c = (p.step c).lower offset lines := by
  unfold step lower
  split <;> simp [Nat.add_right_comm]

theorem advance_lower (p : Place) (offset lines : Nat) (cs : List Char) :
    (p.lower offset lines).advance cs = (p.advance cs).lower offset lines := by
  induction cs generalizing p with
  | nil => rfl
  | cons c cs ih => rw [advance_cons, advance_cons, step_lower, ih]

theorem advance_line (p : Place) (cs : List Char) : (p.advance cs).line = p.line + cs.count '\n' := by
  induction cs generalizing p with
  | nil => rfl
  | cons c cs ih =>
    rw [advance_cons, ih, step]
    split
    · rename_i hc
      simp [hc, Nat.add_assoc, Nat.add_comm 1]
    · rename_i hc
      simp [hc]

/-- Behind whole lines a line begins. -/
theorem advance_of_endsLine {cs : List Char} (h : Template.Token.EndsLine cs) :
    start.advance cs = start.lower cs.length (cs.count '\n') := by
  have hcolumn : (start.advance cs).column = 1 := by
    by_cases hne : cs = []
    · rw [hne]
      rfl
    · obtain ⟨line, rfl⟩ := h.eq_append hne
      rw [advance_append]
      rfl
  have hoffset := advance_offset start cs
  have hline := advance_line start cs
  cases hp : start.advance cs with
  | mk offset line column =>
    rw [hp] at hcolumn hoffset hline
    simp only at hcolumn hoffset hline
    rw [hcolumn, hoffset, hline]
    rfl

end Text.Place

namespace Template

open Text (Place)

/-! ### Tokens that are moved -/

def Token.move (f : Place → Place) (t : Token) : Token := { t with place := f t.place }

@[simp] theorem Token.move_kind (f : Place → Place) (t : Token) : (t.move f).kind = t.kind := rfl

@[simp] theorem Token.move_value (f : Place → Place) (t : Token) : (t.move f).value = t.value := rfl

namespace Token

/-- The tokens of a text that begins further down, or the flaw there. -/
def lowered (offset lines : Nat) : Except Malformed (List Token) → Except Malformed (List Token)
  | .ok ts => .ok (ts.map (move (·.lower offset lines)))
  | .error m => .error { m with line := m.line + lines }

theorem lowered_followedBy (offset lines : Nat) (t : Token) (scan : Except Malformed (List Token)) :
    lowered offset lines (followedBy t scan)
      = followedBy (t.move (·.lower offset lines)) (lowered offset lines scan) := by
  cases scan <;> rfl

theorem scanFrom_lower (p : Place) (offset lines : Nat) (cs : List Char) :
    scanFrom (p.lower offset lines) cs = lowered offset lines (scanFrom p cs) := by
  fun_induction scanFrom p cs with
  | case1 =>
    rw [scanFrom]
    rfl
  | case2 p cs hnone =>
    refine (scanFrom_unterminated _ ((splitLine_eq_none_iff cs).1 hnone)).trans ?_
    simp [lowered, Place.lower, openMark]
  | case3 p cs header rest hsome ih =>
    obtain rfl := splitLine_eq_some hsome
    rw [lowered_followedBy, ← ih, ← Place.advance_lower]
    exact scanFrom_opening _ (lineFeed_not_mem_of_splitLine hsome) rest
  | case4 p cs ih =>
    rw [lowered_followedBy, ← ih, ← Place.advance_lower]
    exact scanFrom_closing _ cs
  | case5 p c cs hopen hclose ih =>
    have hm := atMarker_cons_eq_false hopen hclose
    rw [lowered_followedBy, ← ih, ← Place.advance_lower, scanFrom_run _ (List.cons_ne_nil c cs) hm]
    simp [run, afterRun, hm, move]

end Token

/-! ### Reading tokens that have been moved -/

def Item.move (f : Place → Place) : Item → Item
  | .block b => .block b
  | .separator t => .separator (t.move f)

def Refusal.move (f : Place → Place) : Refusal → Refusal
  | .flawed flaw t => .flawed flaw (t.move f)
  | .tooDeep t => .tooDeep (t.move f)

def OpenDirective.move (f : Place → Place) (d : OpenDirective) : OpenDirective :=
  ⟨d.token.move f, d.items.map (Item.move f)⟩

/-- The progress elsewhere, where the top level began with the items `below`. -/
def Progress.move (f : Place → Place) (below : List Item) (p : Progress) : Progress :=
  ⟨p.root.map (Item.move f) ++ below, p.stack.map (OpenDirective.move f)⟩

section

variable (f : Place → Place)

theorem plainBlocks_move (items : List Item) :
    plainBlocks (items.map (Item.move f)) = (plainBlocks items).mapError (Refusal.move f) := by
  induction items with
  | nil => rfl
  | cons i items ih =>
    cases i with
    | separator t => rfl
    | block b =>
      simp only [List.map_cons, Item.move, plainBlocks, ih]
      cases plainBlocks items <;> rfl

theorem splitAtSeparator_move (items : List Item) :
    splitAtSeparator (items.map (Item.move f))
      = (splitAtSeparator items).map (Prod.map (List.map (Item.move f)) (List.map (Item.move f))) := by
  induction items with
  | nil => rfl
  | cons i items ih =>
    cases i with
    | separator t => rfl
    | block b =>
      simp only [List.map_cons, Item.move, splitAtSeparator, ih]
      cases splitAtSeparator items <;> rfl

theorem firstSeparator?_move (items : List Item) :
    firstSeparator? (items.map (Item.move f)) = (firstSeparator? items).map (Token.move f) := by
  induction items with
  | nil => rfl
  | cons i items ih =>
    cases i with
    | separator t => rfl
    | block b => exact ih

/-- What a reading of tokens makes of the same tokens elsewhere. -/
def moved {α : Type} (g : α → α) (x : Except Refusal α) : Except Refusal α :=
  (x.map g).mapError (Refusal.move f)

theorem moved_id {α : Type} (g : α → α) (x : Except Refusal α) : moved id g x = x.map g := by
  cases x with
  | ok a => rfl
  | error r => cases r <;> rfl

theorem close_move (t : Token) (items : List Item) (inChoice : Bool) :
    close (t.move f) (items.map (Item.move f)) inChoice = moved f (Item.move f) (close t items inChoice) := by
  unfold close
  rw [Token.move_value]
  rcases Header.split t.value with ⟨word, argument⟩
  cases hk : Header.keyword? word with
  | none =>
    simp only [hk, plainBlocks_move]
    cases plainBlocks items <;> rfl
  | some k =>
    cases k with
    | separator =>
      simp only [hk, List.isEmpty_map]
      split
      · rfl
      · split
        · rfl
        · split <;> rfl
    | guard =>
      simp only [hk, requireArgument_bind, plainBlocks_move]
      split
      · rfl
      · cases plainBlocks items <;> rfl
    | choice =>
      simp only [hk, requireArgument_bind, splitAtSeparator_move]
      split
      · rfl
      · cases splitAtSeparator items with
        | none => rfl
        | some around =>
          simp only [Option.map_some, Prod.map, firstSeparator?_move, plainBlocks_move]
          cases firstSeparator? around.2 with
          | some extra => rfl
          | none => cases plainBlocks around.2 <;> cases plainBlocks around.1 <;> rfl
    | inclusion =>
      simp only [hk, requireArgument_bind, List.isEmpty_map]
      split
      · rfl
      · split <;> rfl
    | transform =>
      simp only [hk, requireArgument_bind, plainBlocks_move]
      split
      · rfl
      · cases Header.splitTransform argument with
        | none => rfl
        | some parts => cases plainBlocks items <;> rfl

theorem insideChoice_move (stack : List OpenDirective) :
    insideChoice (stack.map (OpenDirective.move f)) = insideChoice stack := by
  cases stack <;> rfl

variable (below : List Item)

theorem Progress.add_move (p : Progress) (item : Item) :
    (p.move f below).add (item.move f) = (p.add item).move f below := by
  obtain ⟨root, stack⟩ := p
  cases stack <;> rfl

theorem read_move (limit : Nat) (p : Progress) (t : Token) :
    read limit (p.move f below) (t.move f) = moved f (Progress.move f below) (read limit p t) := by
  cases hk : t.kind with
  | text =>
    rw [read_text hk, read_text (by simpa using hk), Token.move_value]
    split
    · rfl
    · exact congrArg Except.ok (p.add_move f below (.block (.text (Text.strip t.value))))
  | opening =>
    have hk' : (t.move f).kind = .opening := hk
    have hlength : (p.move f below).stack.length = p.stack.length := List.length_map _
    by_cases full : limit ≤ p.stack.length
    · rw [read_tooDeep hk full, read_tooDeep hk' (by omega)]
      rfl
    · by_cases hv : t.value = ""
      · rw [read_emptyHeader hk (by omega) hv, read_emptyHeader hk' (by omega) hv]
        rfl
      · rw [read_opening hk (by omega) hv, read_opening hk' (by omega) hv]
        rfl
  | closing =>
    obtain ⟨root, stack⟩ := p
    simp only [read, Token.move_kind, hk, Progress.move]
    cases stack with
    | nil => rfl
    | cons d stack =>
      simp only [List.map_cons, OpenDirective.move, insideChoice_move, ← List.map_reverse, close_move]
      cases close d.token d.items.reverse (insideChoice stack) with
      | error r => rfl
      | ok item => exact congrArg Except.ok (Progress.add_move f below ⟨root, stack⟩ item)
  | finish =>
    obtain ⟨root, stack⟩ := p
    simp only [read, Token.move_kind, hk, Progress.move]
    cases stack <;> rfl

/-- Tokens that have been moved are read alike. -/
theorem foldlM_read_move (limit : Nat) (p : Progress) (ts : List Token) :
    (ts.map (Token.move f)).foldlM (read limit) (p.move f below)
      = moved f (Progress.move f below) (ts.foldlM (read limit) p) := by
  induction ts generalizing p with
  | nil => rfl
  | cons t ts ih =>
    rw [List.map_cons, List.foldlM_cons, List.foldlM_cons, read_move]
    cases read limit p t with
    | error r => rfl
    | ok p' => exact ih p'

end

end Template

end Stencil
