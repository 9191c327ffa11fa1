import Mathlib
import Stencil.Proofs.Template.Joining
import Stencil.Proofs.Template.Places

/-!
# Blanks between tokens

Blanks that are inserted where a token begins, or at the end of a text, become part of a run of text or a run
of their own. They change no header, and they neither make nor break a marker, as no marker has a blank. Main
statement: a text with such blanks is read as the same blocks, or refused for the same flaw or the same limit;
only places may differ.
-/
namespace Stencil.Template

open Text (Place isBlank)

namespace Token

/-! ### Gaps in a text -/

/-- The text from its place `i` on, with `gap j` in front of the character at `j`, and a last gap at the end. -/
def insertGaps (gap : Nat → List Char) (i : Nat) : List Char → List Char
  | [] => gap i
  | c :: cs => gap i ++ c :: insertGaps gap (i + 1) cs

/-- A part without gaps inside stays as it is. -/
theorem insertGaps_append {gap : Nat → List Char} {i : Nat} {part : List Char} (hne : part ≠ [])
    (inside : ∀ j, i < j → j < i + part.length → gap j = []) (rest : List Char) :
    insertGaps gap i (part ++ rest) = gap i ++ part ++ insertGaps gap (i + part.length) rest := by
  induction part generalizing i with
  | nil => exact absurd rfl hne
  | cons c part ih =>
    rw [List.cons_append, insertGaps]
    by_cases hpart : part = []
    · simp [hpart]
    · have hlength := List.length_pos_iff.2 hpart
      rw [ih hpart fun j hj hj' => inside j (by omega) (by simp only [List.length_cons]; omega),
        inside (i + 1) (by omega) (by simp only [List.length_cons]; omega)]
      simp [Nat.add_comm 1, Nat.add_assoc]

/-! ### Markers and blanks -/

theorem atMarker_cons_of_blank {c : Char} (hc : isBlank c = true) (cs : List Char) :
    atMarker (c :: cs) = false := by
  apply atMarker_cons_eq_false
  · rintro _ rfl
    cases hc
  · rintro _ rfl
    cases hc

theorem atMarker_append_cons_of_blank {c : Char} (hc : isBlank c = true) (cs rest : List Char) :
    atMarker (cs ++ c :: rest) = atMarker cs := by
  have hmark (mark : List Char) (h : ∀ d ∈ mark, isBlank d = false) : c ∉ mark := fun hmem => by
    rw [h c hmem] at hc
    cases hc
  have hopen := hmark openMark (by simp [openMark, isBlank])
  have hclose := hmark closeMark (by simp [closeMark, isBlank])
  rw [Bool.eq_iff_iff, atMarker_iff, atMarker_iff, prefix_append_cons_iff hopen, prefix_append_cons_iff hclose]

section

variable {g : List Char} (blank : ∀ c ∈ g, isBlank c = true)

include blank

theorem Unmarked.blank_append {cs : List Char} (h : Unmarked cs) : Unmarked (g ++ cs) := by
  induction g with
  | nil => exact h
  | cons c g ih =>
    obtain ⟨hc, hg⟩ := List.forall_mem_cons.1 blank
    exact (unmarked_cons_iff _ _).2 ⟨atMarker_cons_of_blank hc _, ih hg⟩

theorem Unmarked.append_blank {cs : List Char} (h : Unmarked cs) : Unmarked (cs ++ g) := by
  cases g with
  | nil => rwa [List.append_nil]
  | cons b g =>
    induction cs with
    | nil => exact h.blank_append blank |>.part (by simp)
    | cons c cs ih =>
      obtain ⟨hm, hcs⟩ := (unmarked_cons_iff _ _).1 h
      refine (unmarked_cons_iff _ _).2 ⟨?_, ih hcs⟩
      exact (atMarker_append_cons_of_blank (blank b List.mem_cons_self) (c :: cs) g).trans hm

/-- No part of a marker ends where blanks end. -/
theorem not_suffix_append_blank (hne : g ≠ []) (cs : List Char) {part : List Char} (hpart : part ≠ [])
    (solid : ∀ c ∈ part, isBlank c = false) : ¬ part <:+ cs ++ g := by
  obtain ⟨g, c, rfl⟩ := g.eq_nil_or_concat.resolve_left hne
  rw [List.concat_eq_append, ← List.append_assoc, List.suffix_concat_iff]
  rintro (rfl | ⟨front, rfl, -⟩)
  · exact hpart rfl
  · have := solid c (by simp)
    rw [blank c (by simp)] at this
    cases this

/-- Part of a marker that ends behind blanks begins behind them too. -/
theorem suffix_of_suffix_blank_append {cs part : List Char}
    (solid : ∀ c ∈ part, isBlank c = false) (h : part <:+ g ++ cs) : part <:+ cs := by
  obtain hpart | ⟨front, rfl⟩ := List.suffix_or_suffix_of_suffix h (List.suffix_append g cs)
  · exact hpart
  · obtain ⟨behind, hg⟩ := h
    rw [← List.append_assoc, List.append_cancel_right_eq] at hg
    obtain rfl : front = [] := List.eq_nil_iff_forall_not_mem.2 fun c hc => by
      have := solid c (List.mem_append_left cs hc)
      rw [blank c (hg ▸ List.mem_append_right behind hc)] at this
      cases this
    exact List.suffix_rfl

end

/-! ### Pieces with blanks between them -/

/-- The piece of a run of text, if the run has a character. -/
def Piece.ofRun (cs : List Char) : List Piece := if cs = [] then [] else [.text cs]

@[simp] theorem Piece.ofRun_nil : Piece.ofRun [] = [] := rfl

theorem Piece.ofRun_of_ne_nil {cs : List Char} (h : cs ≠ []) : Piece.ofRun cs = [.text cs] := if_neg h

@[simp] theorem spellAll_ofRun (cs : List Char) : spellAll (Piece.ofRun cs) = cs := by
  by_cases h : cs = [] <;> simp [Piece.ofRun, h, Piece.spell]

/-- The pieces of a text with gaps, where `pending` is the front of a run that goes on. -/
def spread (gap : Nat → List Char) (i : Nat) (pending : List Char) : List Piece → List Piece
  | [] => Piece.ofRun (pending ++ gap i)
  | .text run :: qs => spread gap (i + run.length) (pending ++ gap i ++ run) qs
  | q :: qs => Piece.ofRun (pending ++ gap i) ++ q :: spread gap (i + q.spell.length) [] qs

theorem offset_le_of_mem_tokensFrom {p : Place} {pieces : List Piece} {i : Nat}
    (h : i ∈ (tokensFrom p pieces).map (·.place.offset)) : p.offset ≤ i := by
  obtain ⟨t, ht, rfl⟩ := List.mem_map.1 h
  obtain ⟨before, q, after, -, rfl⟩ | rfl := mem_tokensFrom ht
  · rw [Piece.place_token, Place.advance_offset]
    exact Nat.le_add_right _ _
  · rw [Place.advance_offset]
    exact Nat.le_add_right _ _

variable {gap : Nat → List Char}

/-- If gaps are only at tokens, no piece is torn. -/
theorem spellAll_spread {p : Place} {pieces : List Piece} (wellFormed : ∀ q ∈ pieces, q.WellFormed)
    (places : ∀ i, p.offset ≤ i → gap i ≠ [] → i ∈ (tokensFrom p pieces).map (·.place.offset))
    (pending : List Char) :
    spellAll (spread gap p.offset pending pieces) = pending ++ insertGaps gap p.offset (spellAll pieces) := by
  induction pieces generalizing p pending with
  | nil => simp [spread, insertGaps]
  | cons q qs ih =>
    obtain ⟨hq, hqs⟩ := List.forall_mem_cons.1 wellFormed
    have hoffset := Place.advance_offset p q.spell
    have hplaces (i : Nat) (hi : p.offset < i) (hgap : gap i ≠ []) :
        i ∈ (tokensFrom (p.advance q.spell) qs).map (·.place.offset) := by
      have hmem := places i hi.le hgap
      rw [tokensFrom, List.map_cons, List.mem_cons, Piece.place_token] at hmem
      exact hmem.resolve_left hi.ne'
    have hlength := List.length_pos_iff.2 (spell_ne_nil hq)
    have inside (i : Nat) (hi : p.offset < i) (hi' : i < p.offset + q.spell.length) : gap i = [] := by
      by_contra hgap
      have := offset_le_of_mem_tokensFrom (hplaces i hi hgap)
      omega
    have hrest := ih (p := p.advance q.spell) hqs fun i hi hgap => hplaces i (by omega) hgap
    rw [hoffset] at hrest
    rw [spellAll_cons, insertGaps_append (spell_ne_nil hq) inside]
    cases q with
    | text run => simpa [spread, Piece.spell] using hrest (pending ++ gap p.offset ++ run)
    | opening | closing => simp [spread, spellAll_append, hrest []]

theorem Piece.Meets.blank_append {g run : List Char} (hg : ∀ c ∈ g, isBlank c = true) {q : Piece}
    (h : (Piece.text run).Meets q) : (Piece.text (g ++ run)).Meets q := by
  cases q with
  | text => exact h
  | opening header =>
    exact ⟨fun hs => h.1 (suffix_of_suffix_blank_append hg (by simp [isBlank]) hs),
      fun hs => h.2 (suffix_of_suffix_blank_append hg (by simp [isBlank]) hs)⟩
  | closing => exact fun hs => h (suffix_of_suffix_blank_append hg (by simp [isBlank]) hs)

theorem Piece.meets_append_blank {g : List Char} (hg : ∀ c ∈ g, isBlank c = true) (hne : g ≠ [])
    (run : List Char) {q : Piece} (marker : ∀ other, q ≠ .text other) : (Piece.text (run ++ g)).Meets q := by
  cases q with
  | text other => exact absurd rfl (marker other)
  | opening header =>
    exact ⟨not_suffix_append_blank hg hne run (by simp) (by simp [isBlank]),
      not_suffix_append_blank hg hne run (by simp) (by simp [isBlank])⟩
  | closing => exact not_suffix_append_blank hg hne run (by simp) (by simp [isBlank])

theorem admissible_ofRun_append_iff (run : List Char) (pieces : List Piece) :
    Admissible (Piece.ofRun run ++ pieces) ↔
      Unmarked run ∧ (run ≠ [] → ∀ q ∈ pieces.head?, (Piece.text run).Meets q) ∧ Admissible pieces := by
  by_cases hne : run = []
  · simp [hne, Unmarked.nil]
  · rw [Piece.ofRun_of_ne_nil hne]
    refine (admissible_cons_iff _ _).trans ?_
    simp [hne, Piece.WellFormed]

/-- Blanks may stand behind a run that ends before a marker, and where there is no run. -/
theorem Admissible.ofRun_append_blank {g run : List Char} (hg : ∀ c ∈ g, isBlank c = true) {pieces : List Piece}
    (h : Admissible (Piece.ofRun run ++ pieces)) (marker : ∀ q ∈ pieces.head?, ∀ other, q ≠ .text other) :
    Admissible (Piece.ofRun (run ++ g) ++ pieces) := by
  by_cases hgap : g = []
  · rwa [hgap, List.append_nil]
  · obtain ⟨unmarked, -, hpieces⟩ := (admissible_ofRun_append_iff _ _).1 h
    exact (admissible_ofRun_append_iff _ _).2 ⟨unmarked.append_blank hg,
      fun _ q hq => Piece.meets_append_blank hg hgap run (marker q hq), hpieces⟩

theorem Admissible.blank_append_text {g run : List Char} (hg : ∀ c ∈ g, isBlank c = true) {qs : List Piece}
    (h : Admissible (.text run :: qs)) : Admissible (Piece.ofRun (g ++ run) ++ qs) := by
  obtain ⟨wellFormed, meets, hqs⟩ := (admissible_cons_iff _ _).1 h
  exact (admissible_ofRun_append_iff _ _).2
    ⟨wellFormed.2.blank_append hg, fun _ q hq => (meets q hq).blank_append hg, hqs⟩

/-- Two runs do not meet. -/
theorem Admissible.eq_nil_of_text {pending run : List Char} {qs : List Piece}
    (h : Admissible (Piece.ofRun pending ++ .text run :: qs)) : pending = [] :=
  by_contra fun hne => ((admissible_ofRun_append_iff _ _).1 h).2.1 hne _ rfl

/-- What stands behind a piece that may stay does not matter to the pieces in front of it. -/
theorem Admissible.replace {front qs qs' : List Piece} {q : Piece} (h : Admissible (front ++ q :: qs))
    (h' : Admissible (q :: qs')) : Admissible (front ++ q :: qs') := by
  induction front with
  | nil => exact h'
  | cons f front ih =>
    obtain ⟨hf, hmeets, hfront⟩ := (admissible_cons_iff _ _).1 h
    refine (admissible_cons_iff _ _).2 ⟨hf, ?_, ih hfront⟩
    cases front <;> simpa using hmeets

theorem Piece.meets_of_marker {q : Piece} (marker : ∀ run, q ≠ .text run) (q' : Piece) : q.Meets q' := by
  cases q with
  | text run => exact absurd rfl (marker run)
  | opening | closing => trivial

section

variable (blank : ∀ i, ∀ c ∈ gap i, isBlank c = true)

include blank

theorem Admissible.spread {pieces : List Piece} (i : Nat) (pending : List Char)
    (h : Admissible (Piece.ofRun pending ++ pieces)) : Admissible (spread gap i pending pieces) := by
  induction pieces generalizing i pending with
  | nil => simpa [Token.spread] using h.ofRun_append_blank (blank i) (by simp)
  | cons q qs ih =>
    have hq : Admissible (q :: qs) := ((admissible_ofRun_append_iff _ _).1 h).2.2
    obtain ⟨wellFormed, -, hqs⟩ := (admissible_cons_iff _ _).1 hq
    have marked (marker : ∀ run, q ≠ .text run) :
        Admissible (Piece.ofRun (pending ++ gap i) ++ q :: Token.spread gap (i + q.spell.length) [] qs) := by
      have front := h.ofRun_append_blank (blank i) (by simpa using marker)
      exact front.replace ((admissible_cons_iff _ _).2
        ⟨wellFormed, fun q' _ => Piece.meets_of_marker marker q', ih _ [] hqs⟩)
    cases q with
    | text run =>
      obtain rfl := h.eq_nil_of_text
      exact ih _ (gap i ++ run) (hq.blank_append_text (blank i))
    | opening | closing => exact marked (by simp)

end

/-! ### What a reading takes from tokens -/

/-- What a reading takes from a token: nothing from a blank text, and nothing from its place. -/
def content (t : Token) : Option Token :=
  if t.kind = .text then
    if Text.strip t.value = "" then none else some ⟨.text, Text.strip t.value, .start⟩
  else some (t.move fun _ => .start)

/-- The token that a reading takes from a piece. -/
def Piece.content (q : Piece) : Option Token := Token.content (q.token .start)

theorem content_token (p : Place) (q : Piece) : content (q.token p) = q.content := by
  cases q <;> rfl

theorem filterMap_content_tokensFrom (p : Place) (pieces : List Piece) :
    (tokensFrom p pieces).filterMap content = pieces.filterMap Piece.content ++ [⟨.finish, "", .start⟩] := by
  induction pieces generalizing p with
  | nil => rfl
  | cons q qs ih =>
    rw [tokensFrom, List.filterMap_cons, List.filterMap_cons, ih, content_token]
    cases q.content <;> rfl

theorem content_text (cs : List Char) :
    (Piece.text cs).content
      = if Text.trim cs = [] then none else some ⟨.text, String.ofList (Text.trim cs), .start⟩ := by
  simp [Piece.content, Piece.token, Token.content, Text.strip]

theorem filterMap_content_ofRun (cs : List Char) :
    (Piece.ofRun cs).filterMap Piece.content = (Piece.text cs).content.toList := by
  by_cases h : cs = []
  · rw [h]
    rfl
  · rw [Piece.ofRun_of_ne_nil h]
    cases hc : (Piece.text cs).content <;> simp [hc]

/-- Blanks at the ends of a run, and a run of blanks, are nothing to a reading. -/
theorem filterMap_content_spread (blank : ∀ i, ∀ c ∈ gap i, isBlank c = true) {pieces : List Piece} (i : Nat)
    (pending : List Char) (h : Admissible (Piece.ofRun pending ++ pieces)) :
    (spread gap i pending pieces).filterMap Piece.content
      = (Piece.ofRun pending ++ pieces).filterMap Piece.content := by
  induction pieces generalizing i pending with
  | nil =>
    rw [spread, List.append_nil, filterMap_content_ofRun, filterMap_content_ofRun, content_text, content_text,
      Text.trim_append_blank _ (blank i)]
  | cons q qs ih =>
    have hq : Admissible (q :: qs) := ((admissible_ofRun_append_iff _ _).1 h).2.2
    have hqs : Admissible qs := ((admissible_cons_iff _ _).1 hq).2.2
    cases q with
    | text run =>
      obtain rfl := h.eq_nil_of_text
      have hrest := ih (i + run.length) (gap i ++ run) (hq.blank_append_text (blank i))
      rw [List.filterMap_append, filterMap_content_ofRun, content_text, Text.trim_append_of_blank (blank i),
        ← content_text] at hrest
      rw [spread]
      refine hrest.trans ?_
      cases hc : (Piece.text run).content <;> simp [hc]
    | opening | closing =>
      rw [spread, List.filterMap_append, List.filterMap_append, filterMap_content_ofRun,
        filterMap_content_ofRun, content_text, content_text, Text.trim_append_blank _ (blank i),
        List.filterMap_cons, List.filterMap_cons, ih _ [] hqs]
      · rfl
      · simp

theorem content_eq_none_iff (t : Token) : t.content = none ↔ t.kind = .text ∧ Text.strip t.value = "" := by
  unfold content
  split
  · split <;> simp_all
  · simp_all

end Token

/-! ### Reading without places -/

/-- Progress without places. -/
abbrev unplaced : Progress → Progress := Progress.move (fun _ => Place.start) []

theorem read_content {limit : Nat} {p : Progress} {t u : Token} (h : t.content = some u) :
    read limit (unplaced p) u = moved (fun _ => .start) unplaced (read limit p t) := by
  unfold Token.content at h
  split at h
  · rename_i kind
    split at h
    · cases h
    · rename_i solid
      cases h
      have again : Text.strip (Text.strip t.value) = Text.strip t.value := by
        simp [Text.strip, Text.trim_idem]
      rw [read_text rfl, read_text kind, again, if_neg solid, if_neg solid]
      exact congrArg Except.ok (p.add_move _ [] (.block (.text (Text.strip t.value))))
  · cases h
    exact read_move _ [] limit p t

theorem foldlM_read_content (limit : Nat) (p : Progress) (ts : List Token) :
    (ts.filterMap Token.content).foldlM (read limit) (unplaced p)
      = moved (fun _ => .start) unplaced (ts.foldlM (read limit) p) := by
  induction ts generalizing p with
  | nil => rfl
  | cons t ts ih =>
    rw [List.foldlM_cons]
    cases hc : t.content with
    | none =>
      obtain ⟨kind, hblank⟩ := (Token.content_eq_none_iff t).1 hc
      rw [List.filterMap_cons_none hc, ih, read_text kind, if_pos hblank]
      rfl
    | some u =>
      rw [List.filterMap_cons_some hc, List.foldlM_cons, read_content hc]
      cases read limit p t with
      | error r => rfl
      | ok p' => exact ih p'

theorem ofTokens_content (limit : Nat) (ts : List Token) :
    ofTokens limit (ts.filterMap Token.content) = moved (fun _ => .start) id (ofTokens limit ts) := by
  unfold ofTokens
  have hread := foldlM_read_content limit Progress.start ts
  change (ts.filterMap Token.content).foldlM (read limit) Progress.start = _ at hread
  rw [hread]
  cases ts.foldlM (read limit) Progress.start with
  | error r => rfl
  | ok p =>
    change plainBlocks (p.root.map (Item.move _) ++ []).reverse = moved _ id (plainBlocks p.root.reverse)
    rw [List.append_nil, ← List.map_reverse, plainBlocks_move]
    cases plainBlocks p.root.reverse <;> rfl

/-! ### Texts with gaps -/

/-- Readings with the same blocks, or refused for the same flaw or the same limit, each at some place. -/
inductive ReadAlike : Except Error (List Block) → Except Error (List Block) → Prop
  | blocks (bs : List Block) : ReadAlike (.ok bs) (.ok bs)
  | malformed (flaw : Flaw) (line column line' column' : Int) (remainder remainder' : String) :
      ReadAlike (.error (.malformed ⟨flaw, line, column, remainder⟩))
        (.error (.malformed ⟨flaw, line', column', remainder'⟩))
  | tooDeep (limit : Int) (line elsewhere : Nat) :
      ReadAlike (.error (.tooDeep limit s!"parsing line {line}"))
        (.error (.tooDeep limit s!"parsing line {elsewhere}"))
  | depthNotPositive (limit : Int) :
      ReadAlike (.error (.depthNotPositive limit)) (.error (.depthNotPositive limit))

/-- Readings that agree without places end alike. -/
theorem readAlike_of_moved {x y : Except Refusal (List Block)} {f : Place → Place}
    (h : moved f id x = moved f id y) (limit : Nat) (text text' : String) :
    ReadAlike (x.mapError (Refusal.toError limit text)) (y.mapError (Refusal.toError limit text')) := by
  cases x with
  | ok bs =>
    cases y with
    | ok bs' =>
      cases h
      exact .blocks bs
    | error r' => cases h
  | error r =>
    cases y with
    | ok bs' => cases h
    | error r' =>
      have hmove : r.move f = r'.move f := Except.error.inj h
      cases r with
      | flawed flaw t =>
        cases r' with
        | flawed flaw' t' =>
          obtain ⟨rfl, -⟩ := Refusal.flawed.inj hmove
          exact .malformed flaw _ _ _ _ _ _
        | tooDeep t' => cases hmove
      | tooDeep t =>
        cases r' with
        | flawed flaw' t' => cases hmove
        | tooDeep t' => exact .tooDeep limit _ _

/-- Blanks where tokens begin, or at the end, do not bear on what a text is read as: the blocks are the same, or
the flaw is, or the limit that it exceeds. -/
theorem parse_insertGaps {text : String} {tokens : List Token} (hscan : Token.scan text = .ok tokens)
    {gap : Nat → List Char} (blank : ∀ i, ∀ c ∈ gap i, isBlank c = true)
    (places : ∀ i, gap i ≠ [] → i ∈ tokens.map (·.place.offset)) (limit : Int) :
    ReadAlike (parse limit text) (parse limit (String.ofList (Token.insertGaps gap 0 text.toList))) := by
  obtain ⟨pieces, hpieces, hspell, rfl⟩ := Token.exists_pieces_of_scan hscan
  have hspread : Token.spellAll (Token.spread gap 0 [] pieces) = Token.insertGaps gap 0 text.toList := by
    have torn := Token.spellAll_spread (p := Place.start) hpieces.wellFormed (fun i _ => places i) []
    rwa [hspell] at torn
  have spaced : Token.scan (String.ofList (Token.insertGaps gap 0 text.toList))
      = .ok (Token.tokensFrom Place.start (Token.spread gap 0 [] pieces)) := by
    rw [Token.scan, String.toList_ofList, ← hspread]
    exact Token.scanFrom_spellAll _ (Token.Admissible.spread blank 0 [] hpieces)
  by_cases positive : 1 ≤ limit
  · rw [parse_eq_parseWithin positive, parse_eq_parseWithin positive, parseWithin, parseWithin, hscan, spaced]
    refine readAlike_of_moved (f := fun _ => .start) ?_ _ _ _
    rw [← ofTokens_content, ← ofTokens_content, Token.filterMap_content_tokensFrom,
      Token.filterMap_content_tokensFrom, Token.filterMap_content_spread blank 0 [] hpieces]
    rfl
  · have below := Int.not_le.1 positive
    rw [parse_eq_descendText, parse_eq_descendText, if_pos below, if_pos below]
    exact .depthNotPositive limit

/-- Blanks around all tokens of a text whose markers and texts touch. -/
theorem parse_crowded_choice :
    let text := "!!% ifelse c\n!!!%else\n%!!!%!!"
    let tokens : List Token := [⟨.opening, "ifelse c", ⟨0, 1, 1⟩⟩, ⟨.text, "!", ⟨13, 2, 1⟩⟩,
      ⟨.opening, "else", ⟨14, 2, 2⟩⟩, ⟨.closing, "%!!", ⟨22, 3, 1⟩⟩, ⟨.text, "!", ⟨25, 3, 4⟩⟩,
      ⟨.closing, "%!!", ⟨26, 3, 5⟩⟩, ⟨.finish, "", ⟨29, 3, 8⟩⟩]
    let gap (i : Nat) : List Char := if i ∈ tokens.map (·.place.offset) then ['\n', ' '] else []
    Token.scan text = .ok tokens ∧ (∀ i, ∀ c ∈ gap i, isBlank c = true) ∧
      (∀ i, gap i ≠ [] → i ∈ tokens.map (·.place.offset)) ∧
      ReadAlike (parse 2 text) (parse 2 (String.ofList (Token.insertGaps gap 0 text.toList))) := by
  intro text tokens gap
  have hscan : Token.scan text = .ok tokens := by cbv
  have blank (i : Nat) : ∀ c ∈ gap i, isBlank c = true := by
    dsimp only [gap]
    split <;> simp [isBlank]
  have places (i : Nat) (hi : gap i ≠ []) : i ∈ tokens.map (·.place.offset) := by_contra fun h => hi (if_neg h)
  exact ⟨hscan, blank, places, parse_insertGaps hscan blank places 2⟩

end Stencil.Template
