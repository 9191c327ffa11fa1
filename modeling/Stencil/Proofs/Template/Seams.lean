import Stencil.Proofs.Template.Reading
import Stencil.Proofs.Template.Scanning

/-!
# Scanning across the end of a line

No marker has a line feed, so nothing behind a line feed bears on the markers before it. Only a run of text
at the end of a line goes on into what follows. Main statement: the tokens of a text of whole lines are also
the first tokens of every longer text, up to that run.
-/
namespace Stencil.Template.Token

open Text (Place)

/-! ### Texts of whole lines -/

/-- A text that is empty or ends with a line feed. -/
def EndsLine (cs : List Char) : Prop := ∀ c ∈ cs.getLast?, c = '\n'

instance (cs : List Char) : Decidable (EndsLine cs) :=
  decidable_of_iff (cs.getLast? = none ∨ cs.getLast? = some '\n') (by
    unfold EndsLine
    cases cs.getLast? <;> simp)

theorem EndsLine.nil : EndsLine [] := by simp [EndsLine]

theorem EndsLine.of_append {a b : List Char} (h : EndsLine (a ++ b)) : EndsLine b := by
  intro c hc
  exact h c (by simp_all [List.getLast?_append])

theorem EndsLine.eq_append {cs : List Char} (h : EndsLine cs) (hne : cs ≠ []) :
    ∃ line, cs = line ++ ['\n'] := by
  obtain rfl | ⟨line, c, rfl⟩ := cs.eq_nil_or_concat
  · exact absurd rfl hne
  · obtain rfl : c = '\n' := h c (by simp)
    exact ⟨line, List.concat_eq_append⟩

section

variable {cs : List Char} (h : EndsLine cs)

include h

theorem EndsLine.atMarker_append (hne : cs ≠ []) (rest : List Char) :
    atMarker (cs ++ rest) = atMarker cs := by
  obtain ⟨line, rfl⟩ := h.eq_append hne
  rw [List.append_assoc]
  exact (atMarker_append_lineFeed line rest).trans (atMarker_append_lineFeed line []).symm

/-- A run up to the end goes on into what follows. One that ends at a marker is the same whatever follows. -/
theorem EndsLine.run_append (rest : List Char) :
    run (cs ++ rest) = (if afterRun cs = [] then cs ++ run rest else run cs) ∧
      afterRun (cs ++ rest) = if afterRun cs = [] then afterRun rest else afterRun cs ++ rest := by
  induction cs with
  | nil => exact ⟨rfl, rfl⟩
  | cons c cs ih =>
    have hm := h.atMarker_append (List.cons_ne_nil c cs) rest
    obtain ⟨hrun, hafter⟩ := ih (.of_append (a := [c]) h)
    rw [List.cons_append] at hm ⊢
    rw [run, afterRun, run, afterRun, hm]
    by_cases hc : atMarker (c :: cs) = true
    · simp [hc]
    · rw [if_neg hc, if_neg hc, if_neg hc, if_neg hc, hrun, hafter]
      by_cases hend : afterRun cs = [] <;> simp [hend]

end

theorem runEnds_afterRun (cs : List Char) : RunEnds (afterRun cs) := by
  induction cs with
  | nil => exact .inl rfl
  | cons c cs ih =>
    rw [afterRun]
    split
    · rename_i hm
      exact .inr hm
    · exact ih

/-- A character begins no marker if the scanner takes it for text. -/
theorem atMarker_cons_eq_false {c : Char} {cs : List Char}
    (hopen : ∀ rest, c = '!' → cs = '!' :: '%' :: rest → False)
    (hclose : ∀ rest, c = '%' → cs = '!' :: '!' :: rest → False) : atMarker (c :: cs) = false := by
  rw [atMarker]
  · rintro rest ⟨⟩
    exact hopen rest rfl rfl
  · rintro rest ⟨⟩
    exact hclose rest rfl rfl

/-! ### The line of a header -/

theorem splitLine_eq_none_iff (cs : List Char) : splitLine cs = none ↔ '\n' ∉ cs := by
  induction cs with
  | nil => simp [splitLine]
  | cons c cs ih =>
    rw [splitLine]
    split
    · rename_i hc
      simp [hc]
    · rename_i hc
      simp [ih, Ne.symm hc]

theorem lineFeed_not_mem_of_splitLine {cs line rest : List Char} (h : splitLine cs = some (line, rest)) :
    '\n' ∉ line := by
  induction cs generalizing line with
  | nil => cases h
  | cons c cs ih =>
    rw [splitLine] at h
    split at h
    · cases h
      exact List.not_mem_nil
    · rename_i hc
      obtain ⟨⟨l, r⟩, hl, he⟩ := Option.map_eq_some_iff.1 h
      cases he
      rw [List.mem_cons, not_or]
      exact ⟨Ne.symm hc, ih hl⟩

theorem scanFrom_unterminated (p : Place) {cs : List Char} (h : '\n' ∉ cs) :
    scanFrom p (openMark ++ cs)
      = .error ⟨.unterminatedHeader, p.line, p.column, String.ofList (openMark ++ cs)⟩ := by
  unfold openMark
  rw [List.cons_append, List.cons_append, List.cons_append, List.nil_append, scanFrom]
  split
  · rfl
  · rename_i hs
    rw [(splitLine_eq_none_iff cs).2 h] at hs
    cases hs

/-! ### Tokens in front of a scan -/

/-- Adds tokens in front of a scan that succeeds. -/
def followedByAll (us : List Token) (scan : Except Malformed (List Token)) : Except Malformed (List Token) :=
  us.foldr followedBy scan

@[simp] theorem followedByAll_nil (scan : Except Malformed (List Token)) : followedByAll [] scan = scan := rfl

@[simp] theorem followedByAll_cons (t : Token) (us : List Token) (scan : Except Malformed (List Token)) :
    followedByAll (t :: us) scan = followedBy t (followedByAll us scan) := rfl

theorem followedByAll_append (us vs : List Token) (scan : Except Malformed (List Token)) :
    followedByAll (us ++ vs) scan = followedByAll us (followedByAll vs scan) := List.foldr_append

@[simp] theorem followedByAll_ok (us ts : List Token) : followedByAll us (.ok ts) = .ok (us ++ ts) := by
  induction us with
  | nil => rfl
  | cons u us ih => rw [followedByAll_cons, ih]; rfl

@[simp] theorem followedByAll_error (us : List Token) (m : Malformed) :
    followedByAll us (.error m) = .error m := by
  induction us with
  | nil => rfl
  | cons u us ih => rw [followedByAll_cons, ih]; rfl

/-- The token of a run of text, if the run has a character. -/
def ofRun (p : Place) (cs : List Char) : List Token :=
  if cs = [] then [] else [⟨.text, String.ofList cs, p⟩]

/-- A text is a run and what follows the run. -/
theorem scanFrom_eq_run (p : Place) (cs : List Char) :
    scanFrom p cs = followedByAll (ofRun p (run cs)) (scanFrom (p.advance (run cs)) (afterRun cs)) := by
  cases cs with
  | nil => rfl
  | cons c cs =>
    cases hm : atMarker (c :: cs) with
    | true => simp [run, afterRun, hm, ofRun]
    | false =>
      have hne : run (c :: cs) ≠ [] := by simp [run, hm]
      rw [scanFrom_run p (List.cons_ne_nil c cs) hm, ofRun, if_neg hne]
      rfl

/-- Where a run has ended, the next token is no text. -/
theorem kind_of_scanFrom {p : Place} {cs : List Char} (ends : RunEnds cs) {ts : List Token}
    (h : scanFrom p cs = .ok ts) : ∀ t ∈ ts.head?, t.kind ≠ .text := by
  fun_cases scanFrom p cs with
  | case1 =>
    rw [scanFrom] at h
    cases h
    simp
  | case2 cs hnone =>
    have hscan := scanFrom_unterminated p ((splitLine_eq_none_iff cs).1 hnone)
    cases hscan.symm.trans h
  | case3 cs header rest hsome =>
    obtain rfl := splitLine_eq_some hsome
    have hscan := scanFrom_opening p (lineFeed_not_mem_of_splitLine hsome) rest
    obtain ⟨others, -, rfl⟩ := followedBy_eq_ok (hscan.symm.trans h)
    simp
  | case4 cs =>
    obtain ⟨others, -, rfl⟩ := followedBy_eq_ok ((scanFrom_closing p cs).symm.trans h)
    simp
  | case5 c cs hopen hclose =>
    have hm := atMarker_cons_eq_false hopen hclose
    exact absurd (ends.resolve_left (List.cons_ne_nil c cs)) (by simp [hm])

/-! ### Seams -/

/-- The text `cs` from `p` on has the tokens `us` and then the run `tail` from `q` on, which goes on into
what follows the text. -/
structure Seam (p : Place) (cs : List Char) (us : List Token) (q : Place) (tail : List Char) : Prop where
  ahead (rest : List Char) : scanFrom p (cs ++ rest) = followedByAll us (scanFrom q (tail ++ rest))
  endsLine : EndsLine tail
  unmarked : afterRun tail = []
  place : q.advance tail = p.advance cs
  /-- The run is whole: no run is in front of it. -/
  last : ∀ t ∈ us.getLast?, t.kind = .opening ∨ t.kind = .closing
  marked : atMarker cs = true → us ≠ []

theorem Seam.cons {p p' q : Place} {cs cs' tail : List Char} {us : List Token} (h : Seam p' cs' us q tail)
    (t : Token)
    (ahead : ∀ rest, scanFrom p (cs ++ rest) = followedBy t (scanFrom p' (cs' ++ rest)))
    (place : p'.advance cs' = p.advance cs)
    (last : us = [] → t.kind = .opening ∨ t.kind = .closing) : Seam p cs (t :: us) q tail where
  ahead rest := by rw [ahead, h.ahead, followedByAll_cons]
  endsLine := h.endsLine
  unmarked := h.unmarked
  place := h.place.trans place
  last := by
    cases us with
    | nil => simpa using last rfl
    | cons u us => exact h.last
  marked _ := List.cons_ne_nil _ _

/-- A seam tells the tokens of the text and of what follows it. -/
theorem Seam.scanFrom_append {p q : Place} {cs tail : List Char} {us : List Token} (h : Seam p cs us q tail)
    (rest : List Char) :
    scanFrom p (cs ++ rest) = followedByAll (us ++ ofRun q (tail ++ run rest))
      (scanFrom ((p.advance cs).advance (run rest)) (afterRun rest)) := by
  obtain ⟨hrun, hafter⟩ := h.endsLine.run_append rest
  rw [if_pos h.unmarked] at hrun hafter
  rw [h.ahead, scanFrom_eq_run q, hrun, hafter, followedByAll_append, Place.advance_append, h.place]

/-- A text is scanned up to its end. -/
theorem Seam.scanFrom_eq {p q : Place} {cs tail : List Char} {us : List Token} (h : Seam p cs us q tail) :
    scanFrom p cs = .ok (us ++ ofRun q tail ++ [⟨.finish, "", p.advance cs⟩]) := by
  have hscan := h.scanFrom_append []
  simpa [run, afterRun, scanFrom] using hscan

/-- The tokens of a text of whole lines are also the first ones of every longer text, up to the run at its
end. -/
theorem exists_seam (p : Place) {cs : List Char} (h : EndsLine cs) : ∃ us q tail, Seam p cs us q tail := by
  fun_induction scanFrom p cs with
  | case1 p => exact ⟨[], p, [], fun _ => rfl, .nil, rfl, rfl, by simp, by simp [atMarker]⟩
  | case2 p cs hnone =>
    have hmem : '\n' ∉ '!' :: '!' :: '%' :: cs := by simpa using (splitLine_eq_none_iff cs).1 hnone
    obtain ⟨line, hline⟩ := h.eq_append (List.cons_ne_nil _ _)
    rw [hline] at hmem
    exact absurd (by simp) hmem
  | case3 p cs header rest hsome ih =>
    obtain rfl := splitLine_eq_some hsome
    have hheader := lineFeed_not_mem_of_splitLine hsome
    have hrest : EndsLine rest := .of_append (a := openMark ++ header ++ ['\n']) (by simpa [openMark] using h)
    obtain ⟨us, q, tail, seam⟩ := ih hrest
    refine ⟨_, q, tail, seam.cons ⟨.opening, String.ofList (Text.trim header), p⟩ (fun behind => ?_) ?_
      fun _ => .inl rfl⟩
    · simpa [openMark] using scanFrom_opening p hheader (rest ++ behind)
    · simp [← Place.advance_append, openMark]
  | case4 p cs ih =>
    obtain ⟨us, q, tail, seam⟩ := ih (.of_append (a := closeMark) h)
    refine ⟨_, q, tail, seam.cons ⟨.closing, String.ofList closeMark, p⟩
      (fun behind => scanFrom_closing p (cs ++ behind)) ?_ fun _ => .inr rfl⟩
    rw [← Place.advance_append]
    rfl
  | case5 p c cs hopen hclose ih =>
    have hm := atMarker_cons_eq_false hopen hclose
    have hrun : run (c :: cs) = c :: run cs := by simp [run, hm]
    have hafter : afterRun (c :: cs) = afterRun cs := by simp [afterRun, hm]
    by_cases hend : afterRun (c :: cs) = []
    · exact ⟨[], p, c :: cs, fun _ => rfl, h, hend, rfl, by simp, by simp [hm]⟩
    · have whole := run_append (c :: cs)
      rw [hrun, hafter] at whole
      obtain ⟨us, q, tail, seam⟩ := ih (.of_append (a := c :: run cs) (by rwa [whole]))
      refine ⟨_, q, tail, seam.cons ⟨.text, String.ofList (c :: run cs), p⟩ (fun behind => ?_) ?_
        fun hnil => ?_⟩
      · obtain ⟨hrun', hafter'⟩ := h.run_append behind
        rw [if_neg hend] at hrun' hafter'
        have hm' := (h.atMarker_append (List.cons_ne_nil c cs) behind).trans hm
        rw [scanFrom_run p (by simp) hm', hrun', hafter', hrun, hafter]
      · rw [← Place.advance_append, whole]
      · rw [hafter] at hend
        exact absurd hnil (seam.marked ((runEnds_afterRun cs).resolve_left hend))

end Stencil.Template.Token
