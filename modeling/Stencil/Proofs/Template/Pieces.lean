import Mathlib
import Stencil.Proofs.Template.Spelled

/-!
# The pieces of a text

A template text consists of runs of text, openings with their lines, and closings. Two pieces may meet if
no marker begins in the first one and ends in the second. Main statement: every sequence of pieces that may
meet is what the scanner makes of its concatenation, and every text that has tokens is such a sequence, in
one way.
-/
namespace Stencil.Template.Token

open Text (Place)

inductive Piece where
  | text (run : List Char)
  /-- An opening marker and the rest of its line. -/
  | opening (header : List Char)
  | closing
  deriving DecidableEq, Repr

namespace Piece

def spell : Piece → List Char
  | text run => run
  | opening header => openMark ++ header ++ ['\n']
  | closing => closeMark

/-- The token of a piece that begins at `p`. -/
def token (p : Place) : Piece → Token
  | text run => ⟨.text, String.ofList run, p⟩
  | opening header => ⟨.opening, String.ofList (Text.trim header), p⟩
  | closing => ⟨.closing, String.ofList closeMark, p⟩

def WellFormed : Piece → Prop
  | text run => run ≠ [] ∧ Unmarked run
  | opening header => '\n' ∉ header
  | closing => True

/-- The second piece may stand behind the first one: they are not both texts, and no marker begins before
the seam and ends behind it. -/
def Meets : Piece → Piece → Prop
  | text _, text _ => False
  | text run, opening _ => ¬ ['%'] <:+ run ∧ ¬ ['%', '!'] <:+ run
  | text run, closing => ¬ ['!', '!'] <:+ run
  | opening _, _ | closing, _ => True

instance : DecidablePred WellFormed
  | text run => inferInstanceAs (Decidable (run ≠ [] ∧ Unmarked run))
  | opening header => inferInstanceAs (Decidable ('\n' ∉ header))
  | closing => .isTrue trivial

instance : DecidableRel Meets
  | text _, text _ => .isFalse id
  | text run, opening _ => inferInstanceAs (Decidable (¬ ['%'] <:+ run ∧ ¬ ['%', '!'] <:+ run))
  | text run, closing => inferInstanceAs (Decidable (¬ ['!', '!'] <:+ run))
  | opening _, text _ | opening _, opening _ | opening _, closing => .isTrue trivial
  | closing, text _ | closing, opening _ | closing, closing => .isTrue trivial

end Piece

/-- Well-formed pieces of which each may stand behind the one before it. -/
structure Admissible (pieces : List Piece) : Prop where
  wellFormed : ∀ q ∈ pieces, q.WellFormed
  meet : pieces.IsChain Piece.Meets

instance (pieces : List Piece) : Decidable (Admissible pieces) :=
  decidable_of_iff ((∀ q ∈ pieces, q.WellFormed) ∧ pieces.IsChain Piece.Meets)
    ⟨fun ⟨wellFormed, meet⟩ => ⟨wellFormed, meet⟩, fun h => ⟨h.1, h.2⟩⟩

def spellAll (pieces : List Piece) : List Char := pieces.flatMap Piece.spell

/-- One token for each piece, in order, where the first one begins at `p`, and one for the end. -/
def tokensFrom (p : Place) : List Piece → List Token
  | [] => [⟨.finish, "", p⟩]
  | q :: qs => q.token p :: tokensFrom (p.advance q.spell) qs

theorem Admissible.nil : Admissible [] := ⟨by simp, .nil⟩

theorem admissible_cons_iff (q : Piece) (qs : List Piece) :
    Admissible (q :: qs) ↔ q.WellFormed ∧ (∀ q' ∈ qs.head?, q.Meets q') ∧ Admissible qs := by
  constructor
  · intro h
    have hq := List.forall_mem_cons.1 h.wellFormed
    have hmeet := List.isChain_cons.1 h.meet
    exact ⟨hq.1, hmeet.1, hq.2, hmeet.2⟩
  · rintro ⟨hq, hmeet, hqs⟩
    exact ⟨List.forall_mem_cons.2 ⟨hq, hqs.wellFormed⟩, List.isChain_cons.2 ⟨hmeet, hqs.meet⟩⟩

@[simp] theorem spellAll_nil : spellAll [] = [] := rfl

@[simp] theorem spellAll_cons (q : Piece) (qs : List Piece) : spellAll (q :: qs) = q.spell ++ spellAll qs :=
  rfl

/-! ### Seams between pieces -/

/-- No marker begins in `cs` when `rest` follows. -/
def Clear (cs rest : List Char) : Prop := ∀ c s, c :: s <:+ cs → atMarker (c :: s ++ rest) = false

theorem clear_nil (rest : List Char) : Clear [] rest := by
  intro c s hs
  simp at hs

theorem clear_cons_iff (c : Char) (cs rest : List Char) :
    Clear (c :: cs) rest ↔ atMarker (c :: cs ++ rest) = false ∧ Clear cs rest := by
  constructor
  · intro h
    exact ⟨h c cs List.suffix_rfl, fun d s hs => h d s (hs.trans (List.suffix_cons c cs))⟩
  · rintro ⟨hm, h⟩ d s hs
    obtain heq | hs := List.suffix_cons_iff.1 hs
    · rw [heq]
      exact hm
    · exact h d s hs

theorem clear_of_unmarked {cs : List Char} (h : Unmarked cs) : Clear cs [] := by
  intro c s hs
  rw [List.append_nil]
  exact (h.part hs.isInfix).atMarker_eq_false

/-- A run ends where the next marker is, and nowhere before it. -/
theorem run_append_eq_iff {cs rest : List Char} (ends : RunEnds rest) :
    run (cs ++ rest) = cs ↔ Clear cs rest := by
  induction cs with
  | nil => exact iff_of_true ends.run_eq_nil (clear_nil rest)
  | cons c cs ih =>
    rw [clear_cons_iff, ← ih, List.cons_append, run]
    cases atMarker (c :: (cs ++ rest)) <;> simp

theorem afterRun_append_of_clear {cs rest : List Char} (ends : RunEnds rest) (h : Clear cs rest) :
    afterRun (cs ++ rest) = rest := by
  have whole := run_append (cs ++ rest)
  rwa [(run_append_eq_iff ends).2 h, List.append_cancel_left_eq] at whole

theorem atMarker_three_iff (a b c : Char) (rest : List Char) :
    atMarker (a :: b :: c :: rest) = true
      ↔ (a = '!' ∧ b = '!' ∧ c = '%') ∨ (a = '%' ∧ b = '!' ∧ c = '!') := by
  simp [atMarker_iff, openMark, closeMark, List.cons_prefix_cons, @eq_comm Char _ a, @eq_comm Char _ b,
    @eq_comm Char _ c]

theorem atMarker_three_append {a b c : Char} {s rest : List Char} (h : atMarker (a :: b :: c :: s) = false) :
    atMarker (a :: b :: c :: (s ++ rest)) = false := by
  rw [← Bool.not_eq_true, atMarker_three_iff] at h ⊢
  exact h

/-- Only two ends of a run make a marker with the front of an opening. -/
theorem clear_openMark_iff {cs : List Char} (h : Unmarked cs) (rest : List Char) :
    Clear cs (openMark ++ rest) ↔ ¬ ['%'] <:+ cs ∧ ¬ ['%', '!'] <:+ cs := by
  constructor
  · intro hclear
    exact ⟨fun hs => absurd (hclear _ _ hs) (by simp [openMark, atMarker]),
      fun hs => absurd (hclear _ _ hs) (by simp [openMark, atMarker])⟩
  · rintro ⟨hone, htwo⟩ c s hs
    cases s with
    | nil =>
      rw [← Bool.not_eq_true]
      intro hm
      obtain ⟨-, -, ⟨⟩⟩ | ⟨rfl, -⟩ := (atMarker_three_iff c '!' '!' _).1 hm
      exact hone hs
    | cons d s =>
      cases s with
      | nil =>
        rw [← Bool.not_eq_true]
        intro hm
        obtain ⟨-, -, ⟨⟩⟩ | ⟨rfl, rfl, -⟩ := (atMarker_three_iff c d '!' _).1 hm
        exact htwo hs
      | cons e s => exact atMarker_three_append (h.part hs.isInfix).atMarker_eq_false

/-- Only one end of a run makes a marker with the front of a closing. -/
theorem clear_closeMark_iff {cs : List Char} (h : Unmarked cs) (rest : List Char) :
    Clear cs (closeMark ++ rest) ↔ ¬ ['!', '!'] <:+ cs := by
  constructor
  · intro hclear hs
    exact absurd (hclear _ _ hs) (by simp [closeMark, atMarker])
  · intro htwo c s hs
    cases s with
    | nil =>
      rw [← Bool.not_eq_true]
      intro hm
      obtain ⟨-, ⟨⟩, -⟩ | ⟨-, ⟨⟩, -⟩ := (atMarker_three_iff c '%' '!' _).1 hm
    | cons d s =>
      cases s with
      | nil =>
        rw [← Bool.not_eq_true]
        intro hm
        obtain ⟨rfl, rfl, -⟩ | ⟨-, -, ⟨⟩⟩ := (atMarker_three_iff c d '%' _).1 hm
        exact htwo hs
      | cons e s => exact atMarker_three_append (h.part hs.isInfix).atMarker_eq_false

/-- A run may stand before pieces if it ends where they begin and no marker begins in it. -/
theorem meets_iff {cs : List Char} (h : Unmarked cs) {qs : List Piece} (hqs : Admissible qs) :
    (∀ q ∈ qs.head?, (Piece.text cs).Meets q) ↔ RunEnds (spellAll qs) ∧ Clear cs (spellAll qs) := by
  induction qs generalizing cs with
  | nil => exact iff_of_true (by simp) ⟨.inl rfl, clear_of_unmarked h⟩
  | cons q qs ih =>
    obtain ⟨hq, hmeet, hrest⟩ := (admissible_cons_iff q qs).1 hqs
    simp only [List.head?_cons, Option.mem_def, Option.some.injEq, forall_eq', spellAll_cons]
    cases q with
    | text run =>
      obtain ⟨hne, hrun⟩ := hq
      refine iff_of_false id fun ⟨ends, _⟩ => ?_
      -- The second run is no marker, as it may stand before what follows it.
      obtain ⟨c, s, rfl⟩ := List.exists_cons_of_ne_nil hne
      have hclear := ((ih hrun hrest).1 hmeet).2 c s List.suffix_rfl
      obtain hnil | hmarker := ends
      · simp [Piece.spell] at hnil
      · exact Bool.false_ne_true (hclear.symm.trans hmarker)
    | opening header =>
      have hspell : (Piece.opening header).spell ++ spellAll qs
          = openMark ++ (header ++ ['\n'] ++ spellAll qs) := by simp [Piece.spell]
      rw [hspell, clear_openMark_iff h]
      exact ⟨fun hm => ⟨runEnds_openMark _, hm⟩, And.right⟩
    | closing =>
      rw [Piece.spell, clear_closeMark_iff h]
      exact ⟨fun hm => ⟨runEnds_closeMark _, hm⟩, And.right⟩

/-! ### From pieces to tokens -/

theorem scanFrom_spellAll (p : Place) {pieces : List Piece} (h : Admissible pieces) :
    scanFrom p (spellAll pieces) = .ok (tokensFrom p pieces) := by
  induction pieces generalizing p with
  | nil =>
    rw [spellAll_nil, scanFrom]
    rfl
  | cons q qs ih =>
    obtain ⟨hq, hmeet, hqs⟩ := (admissible_cons_iff q qs).1 h
    have hrest := ih (p.advance q.spell) hqs
    cases q with
    | text run =>
      obtain ⟨hne, hrun⟩ := hq
      obtain ⟨ends, hclear⟩ := (meets_iff hrun hqs).1 hmeet
      have hm : atMarker (run ++ spellAll qs) = false := by
        obtain ⟨c, s, rfl⟩ := List.exists_cons_of_ne_nil hne
        exact hclear c s List.suffix_rfl
      rw [spellAll_cons, Piece.spell, scanFrom_run p (List.append_ne_nil_of_left_ne_nil hne _) hm,
        (run_append_eq_iff ends).2 hclear, afterRun_append_of_clear ends hclear]
      exact congrArg _ hrest
    | opening header =>
      have hspell : spellAll (.opening header :: qs) = openMark ++ (header ++ '\n' :: spellAll qs) := by
        simp [Piece.spell]
      rw [hspell, scanFrom_opening p hq]
      exact congrArg _ hrest
    | closing =>
      rw [spellAll_cons, Piece.spell, scanFrom_closing]
      exact congrArg _ hrest

/-! ### From tokens to pieces -/

theorem exists_pieces {p : Place} {cs : List Char} {ts : List Token} (h : scanFrom p cs = .ok ts) :
    ∃ pieces, Admissible pieces ∧ spellAll pieces = cs := by
  fun_induction scanFrom p cs generalizing ts with
  | case1 => exact ⟨[], .nil, rfl⟩
  | case2 => cases h
  | case3 p cs header rest hsome ih =>
    obtain ⟨others, hothers, rfl⟩ := followedBy_eq_ok h
    obtain ⟨qs, hqs, rfl⟩ := ih hothers
    refine ⟨.opening header :: qs, (admissible_cons_iff _ _).2
      ⟨lineFeed_not_mem_of_splitLine hsome, fun _ _ => trivial, hqs⟩, ?_⟩
    rw [splitLine_eq_some hsome]
    simp [Piece.spell, openMark]
  | case4 p cs ih =>
    obtain ⟨others, hothers, rfl⟩ := followedBy_eq_ok h
    obtain ⟨qs, hqs, rfl⟩ := ih hothers
    exact ⟨.closing :: qs, (admissible_cons_iff _ _).2 ⟨trivial, fun _ _ => trivial, hqs⟩, rfl⟩
  | case5 p c cs hopen hclose ih =>
    obtain ⟨others, hothers, rfl⟩ := followedBy_eq_ok h
    obtain ⟨qs, hqs, hspell⟩ := ih hothers
    have hm := atMarker_cons_eq_false hopen hclose
    have hrun : run (c :: cs) = c :: run cs := by simp [run, hm]
    have hunmarked : Unmarked (c :: run cs) := hrun ▸ unmarked_run (c :: cs)
    have whole : c :: run cs ++ spellAll qs = c :: cs := by
      rw [hspell, List.cons_append, run_append]
    have ends : RunEnds (spellAll qs) := hspell ▸ runEnds_afterRun cs
    refine ⟨.text (c :: run cs) :: qs, (admissible_cons_iff _ _).2
      ⟨⟨List.cons_ne_nil _ _, hunmarked⟩, (meets_iff hunmarked hqs).2 ⟨ends, ?_⟩, hqs⟩, whole⟩
    rw [← run_append_eq_iff ends, whole, hrun]

/-! ### Cutting at places -/

/-- The parts of a text between places and the next ones. -/
def cut (cs : List Char) : List Nat → List (List Char)
  | i :: j :: places => (cs.drop i).take (j - i) :: cut cs (j :: places)
  | _ => []

@[simp] theorem Piece.place_token (p : Place) (q : Piece) : (q.token p).place = p := by
  cases q <;> rfl

theorem tokensFrom_offsets (p : Place) (pieces : List Piece) :
    (tokensFrom p pieces).map (·.place.offset)
      = (pieces.map (·.spell.length)).scanl (· + ·) p.offset := by
  induction pieces generalizing p with
  | nil => rfl
  | cons q qs ih =>
    have hrest := ih (p.advance q.spell)
    rw [Place.advance_offset] at hrest
    rw [List.map_cons, List.scanl_cons, ← hrest, tokensFrom, List.map_cons, Piece.place_token]

/-- The places of pieces cut their text into what they spell. -/
theorem cut_scanl (before : List Char) (pieces : List Piece) :
    cut (before ++ spellAll pieces) ((pieces.map (·.spell.length)).scanl (· + ·) before.length)
      = pieces.map Piece.spell := by
  induction pieces generalizing before with
  | nil => rfl
  | cons q qs ih =>
    have hrest := ih (before ++ q.spell)
    rw [List.length_append, List.append_assoc, ← spellAll_cons] at hrest
    rw [List.map_cons, List.scanl_cons, List.map_cons, ← hrest]
    cases qs with
    | nil => simp [cut]
    | cons q' qs => simp [cut]

theorem spell_ne_nil {q : Piece} (h : q.WellFormed) : q.spell ≠ [] := by
  cases q with
  | text run => exact h.1
  | opening header => simp [Piece.spell, openMark]
  | closing => simp [Piece.spell, closeMark]

/-- Each piece takes at least one character. -/
theorem isChain_scanl {pieces : List Piece} (h : ∀ q ∈ pieces, q.WellFormed) (i : Nat) :
    ((pieces.map (·.spell.length)).scanl (· + ·) i).IsChain (· < ·) := by
  induction pieces generalizing i with
  | nil => exact .singleton i
  | cons q qs ih =>
    obtain ⟨hq, hqs⟩ := List.forall_mem_cons.1 h
    have hlength := List.length_pos_iff.2 (spell_ne_nil hq)
    rw [List.map_cons, List.scanl_cons]
    refine (ih hqs _).cons fun j hj => ?_
    obtain rfl : i + q.spell.length = j := by cases qs <;> simpa using hj
    omega

theorem spell_injective {q q' : Piece} (h : q.WellFormed) (h' : q'.WellFormed) (he : q.spell = q'.spell) :
    q = q' := by
  have hmarked (run header : List Char) (hrun : Unmarked run) : run ≠ (Piece.opening header).spell := by
    rintro rfl
    exact hrun.opening ⟨[], header ++ ['\n'], by simp [Piece.spell]⟩
  have hclosed (run : List Char) (hrun : Unmarked run) : run ≠ Piece.closing.spell := by
    rintro rfl
    exact hrun.closing List.infix_rfl
  cases q with
  | text run =>
    cases q' with
    | text run' => exact congrArg Piece.text he
    | opening header => exact absurd he (hmarked run header h.2)
    | closing => exact absurd he (hclosed run h.2)
  | opening header =>
    cases q' with
    | text run => exact absurd he.symm (hmarked run header h'.2)
    | opening header' => simpa [Piece.spell] using he
    | closing => simp [Piece.spell, openMark, closeMark] at he
  | closing =>
    cases q' with
    | text run => exact absurd he.symm (hclosed run h'.2)
    | opening header => simp [Piece.spell, openMark, closeMark] at he
    | closing => rfl

theorem map_spell_injective {pieces others : List Piece} (h : ∀ q ∈ pieces, q.WellFormed)
    (h' : ∀ q ∈ others, q.WellFormed) (he : pieces.map Piece.spell = others.map Piece.spell) :
    pieces = others := by
  induction pieces generalizing others with
  | nil => simpa [eq_comm] using he
  | cons q qs ih =>
    cases others with
    | nil => simp at he
    | cons q' qs' =>
      rw [List.map_cons, List.map_cons, List.cons.injEq] at he
      obtain ⟨hq, hqs⟩ := List.forall_mem_cons.1 h
      obtain ⟨hq', hqs'⟩ := List.forall_mem_cons.1 h'
      rw [spell_injective hq hq' he.1, ih hqs hqs' he.2]

/-- The scanner tells where the pieces of a text are, so there is one way to cut it. -/
theorem eq_of_spellAll_eq {pieces others : List Piece} (h : Admissible pieces) (h' : Admissible others)
    (he : spellAll pieces = spellAll others) : pieces = others := by
  have hscan := scanFrom_spellAll Place.start h
  rw [he, scanFrom_spellAll Place.start h', Except.ok.injEq] at hscan
  have hplaces := tokensFrom_offsets Place.start pieces
  rw [← hscan, tokensFrom_offsets] at hplaces
  refine map_spell_injective h.wellFormed h'.wellFormed ?_
  calc pieces.map Piece.spell
      = cut (spellAll pieces) ((pieces.map (·.spell.length)).scanl (· + ·) 0) := (cut_scanl [] pieces).symm
    _ = cut (spellAll others) ((others.map (·.spell.length)).scanl (· + ·) 0) := by
      rw [he]
      exact congrArg _ hplaces.symm
    _ = others.map Piece.spell := cut_scanl [] others

/-- Pieces that may meet are scanned one by one, each at the place behind those before it, and the end comes
behind them all. A text that has tokens is cut by their places into pieces that may meet, each of at least
one character, and there is no other way to cut it so. -/
theorem scan_decomposes :
    (∀ pieces : List Piece, Admissible pieces →
      scan (String.ofList (spellAll pieces)) = .ok (tokensFrom Place.start pieces) ∧
        (tokensFrom Place.start pieces).map (·.place.offset)
          = (pieces.map (·.spell.length)).scanl (· + ·) 0) ∧
      ∀ (text : String) (tokens : List Token), scan text = .ok tokens →
        (tokens.map (·.place.offset)).IsChain (· < ·) ∧
        ∃ pieces, Admissible pieces ∧ spellAll pieces = text.toList ∧
          cut text.toList (tokens.map (·.place.offset)) = pieces.map Piece.spell ∧
          ∀ others, Admissible others → spellAll others = text.toList → others = pieces := by
  constructor
  · intro pieces h
    refine ⟨?_, tokensFrom_offsets Place.start pieces⟩
    rw [scan, String.toList_ofList, scanFrom_spellAll Place.start h]
  · intro text tokens hscan
    obtain ⟨pieces, h, hspell⟩ := exists_pieces hscan
    have htokens := scanFrom_spellAll Place.start h
    rw [hspell, ← scan, hscan, Except.ok.injEq] at htokens
    have hplaces : tokens.map (·.place.offset) = (pieces.map (·.spell.length)).scanl (· + ·) 0 := by
      rw [htokens, tokensFrom_offsets]
      rfl
    rw [hplaces, ← hspell]
    exact ⟨isChain_scanl h.wellFormed 0, pieces, h, rfl, cut_scanl [] pieces,
      fun others hothers he => eq_of_spellAll_eq hothers h he⟩

/-- Exclamation marks and percent signs that belong to no marker, next to markers that share them. -/
theorem scan_crowded :
    let pieces : List Piece := [.closing, .opening ['%', '!', '!'], .text ['!'], .closing, .text ['!', '%']]
    let text := String.ofList (spellAll pieces)
    Admissible pieces ∧ text = "%!!!!%%!!\n!%!!!%" ∧ scan text = .ok (tokensFrom Place.start pieces) ∧
      ((tokensFrom Place.start pieces).map (·.place.offset)).IsChain (· < ·) := by
  intro pieces text
  have h : Admissible pieces := by decide
  have hscan := (scan_decomposes.1 pieces h).1
  exact ⟨h, by decide, hscan, (scan_decomposes.2 text _ hscan).1⟩

end Stencil.Template.Token
