import Stencil.Proofs.Template.Descent

/-!
# The stack reads like the recursion

Reading tokens with a stack of open directives adds to the innermost of them what the recursion finds in
its body. Main statement: every text is read like the recursion reads it, with the same blocks or the same
refusal at the same place.
-/
namespace Stencil.Template

open Text (Place)

namespace Progress

/-- Adds items one after another. -/
def addAll (p : Progress) (items : List Item) : Progress := items.foldl add p

@[simp] theorem addAll_nil (p : Progress) : p.addAll [] = p := rfl

@[simp] theorem addAll_cons (p : Progress) (i : Item) (items : List Item) :
    p.addAll (i :: items) = (p.add i).addAll items := rfl

@[simp] theorem length_stack_add (p : Progress) (i : Item) :
    (p.add i).stack.length = p.stack.length := by
  obtain ⟨root, stack⟩ := p
  cases stack <;> rfl

@[simp] theorem insideChoice_stack_add (p : Progress) (i : Item) :
    insideChoice (p.add i).stack = insideChoice p.stack := by
  obtain ⟨root, stack⟩ := p
  cases stack <;> rfl

@[simp] theorem length_stack_addAll (p : Progress) (items : List Item) :
    (p.addAll items).stack.length = p.stack.length := by
  induction items generalizing p with
  | nil => rfl
  | cons i items ih => rw [addAll_cons, ih, length_stack_add]

@[simp] theorem insideChoice_stack_addAll (p : Progress) (items : List Item) :
    insideChoice (p.addAll items).stack = insideChoice p.stack := by
  induction items generalizing p with
  | nil => rfl
  | cons i items ih => rw [addAll_cons, ih, insideChoice_stack_add]

theorem addAll_append (p : Progress) (a b : List Item) : p.addAll (a ++ b) = (p.addAll a).addAll b :=
  List.foldl_append

theorem addAll_root (root items : List Item) : addAll ⟨root, []⟩ items = ⟨items.reverse ++ root, []⟩ := by
  induction items generalizing root with
  | nil => rfl
  | cons i items ih =>
    rw [addAll_cons]
    exact (ih (i :: root)).trans (by simp)

/-- The progress inside a directive that has just been opened. -/
def enter (p : Progress) (t : Token) : Progress := ⟨p.root, ⟨t, []⟩ :: p.stack⟩

@[simp] theorem length_stack_enter (p : Progress) (t : Token) :
    (p.enter t).stack.length = p.stack.length + 1 := rfl

theorem insideChoice_stack_enter (p : Progress) (t : Token) :
    insideChoice (p.enter t).stack = opensChoice t := keywordOf?_eq_choice t

/-- Items go to the innermost open directive, the newest first. -/
theorem enter_addAll (p : Progress) (t : Token) (items : List Item) :
    (p.enter t).addAll items = ⟨p.root, ⟨t, items.reverse⟩ :: p.stack⟩ := by
  have h (seen : List Item) : addAll ⟨p.root, ⟨t, seen⟩ :: p.stack⟩ items
      = ⟨p.root, ⟨t, items.reverse ++ seen⟩ :: p.stack⟩ := by
    induction items generalizing seen with
    | nil => rfl
    | cons i items ih =>
      rw [addAll_cons]
      exact (ih (i :: seen)).trans (by simp)
  exact (h []).trans (by simp)

end Progress

/-! ### One token -/

section

variable {limit : Nat} {p : Progress} {t : Token}

theorem read_text (kind : t.kind = .text) : read limit p t
    = .ok (if Text.strip t.value = "" then p else p.add (.block (.text (Text.strip t.value)))) := by
  simp [read, kind]

theorem read_tooDeep (kind : t.kind = .opening) (full : limit ≤ p.stack.length) :
    read limit p t = .error (.tooDeep t) := by
  simp [read, kind, full]

theorem read_emptyHeader (kind : t.kind = .opening) (room : p.stack.length < limit) (header : t.value = "") :
    read limit p t = .error (.flawed .emptyHeader t) := by
  simp [read, kind, Nat.not_le.2 room, header]

theorem read_opening (kind : t.kind = .opening) (room : p.stack.length < limit) (header : t.value ≠ "") :
    read limit p t = .ok (p.enter t) := by
  simp [read, kind, Nat.not_le.2 room, header, Progress.enter]

theorem read_closing {c : Token} (kind : c.kind = .closing) (items : List Item) :
    read limit ((p.enter t).addAll items) c
      = close t items (insideChoice p.stack) >>= fun item => .ok (p.add item) := by
  rw [Progress.enter_addAll]
  simp only [read, kind, List.reverse_reverse]
  rfl

theorem read_finish {c : Token} (kind : c.kind = .finish) (items : List Item) :
    read limit ((p.enter t).addAll items) c = .error (.flawed (.unclosed t.value) t) := by
  rw [Progress.enter_addAll]
  simp [read, kind]

end

/-! ### Tokens up to the end -/

/-- Tokens whose last one, and no other, is the end. -/
inductive Ended : List Token → Prop
  | finish {e : Token} (kind : e.kind = .finish) : Ended [e]
  | cons {t : Token} {ts : List Token} (kind : t.kind ≠ .finish) (others : Ended ts) : Ended (t :: ts)

theorem Ended.of_cons {t : Token} {ts : List Token} (h : Ended (t :: ts)) (kind : t.kind ≠ .finish) :
    Ended ts := by
  cases h with
  | finish hk => exact absurd hk kind
  | cons _ others => exact others

theorem Ended.eq_nil {t : Token} {ts : List Token} (h : Ended (t :: ts)) (kind : t.kind = .finish) :
    ts = [] := by
  cases h with
  | finish => rfl
  | cons hk _ => exact absurd kind hk

/-- A body stops at a closing marker or at the end. -/
theorem Reads.stops {limit depth : Nat} {inChoice : Bool} {ts rest : List Token} {items : List Item}
    (h : Reads limit depth inChoice ts items rest) (ended : Ended ts) :
    Ended rest ∧ ∃ c cs, rest = c :: cs ∧ (c.kind = .closing ∨ c.kind = .finish) := by
  induction h with
  | nil => cases ended
  | stop kind => exact ⟨ended, _, _, rfl, kind⟩
  | blank kind _ _ ih => exact ih (ended.of_cons (by simp [kind]))
  | text kind _ _ ih => exact ih (ended.of_cons (by simp [kind]))
  | directive kind _ _ _ close _ _ ih₁ ih₂ =>
    obtain ⟨hrest, -⟩ := ih₁ (ended.of_cons (by simp [kind]))
    exact ih₂ (hrest.of_cons (by simp [close]))

/-! ### The stack and the recursion -/

/-- The stack reads a body like the recursion: what is open stays, the items of the body are added to it,
and what follows the body is read then. -/
theorem foldlM_read {limit depth : Nat} {inChoice : Bool} {tokens : List Token} {p : Progress}
    (ended : Ended tokens) (hdepth : p.stack.length = depth) (hchoice : insideChoice p.stack = inChoice) :
    tokens.foldlM (read limit) p
      = descend limit depth inChoice tokens >>= fun r => r.2.1.foldlM (read limit) (p.addAll r.1) := by
  fun_induction descend limit depth inChoice tokens generalizing p with
  | case1 => rfl
  | case2 => rfl
  | case3 => rfl
  | case4 depth inChoice t ts hk ih =>
    rw [List.foldlM_cons, read_text hk, bind_assoc]
    refine (ih (ended.of_cons (by simp [hk])) ?_ ?_).trans ?_
    · split <;> simp [hdepth]
    · split <;> simp [hchoice]
    · congr
      funext r
      obtain ⟨items, rest, h⟩ := r
      by_cases hc : Text.strip t.value = "" <;> simp [hc]
  | case5 depth inChoice t ts hk hroom =>
    rw [List.foldlM_cons, read_tooDeep hk (by rwa [hdepth])]
    rfl
  | case6 depth inChoice t ts hk hroom hv =>
    rw [List.foldlM_cons, read_emptyHeader hk (by omega) hv]
    rfl
  | case7 depth inChoice t ts hk hroom hv ih₂ ih₁ =>
    rw [List.foldlM_cons, read_opening hk (by omega) hv]
    have hts : Ended ts := ended.of_cons (by simp [hk])
    -- The body is read first; its directive is judged when the stack is back at `p`.
    refine (ih₂ hts (by simp [hdepth]) (p.insideChoice_stack_enter t)).trans ?_
    cases hd : descend limit (depth + 1) (opensChoice t) ts with
    | error r => rfl
    | ok r =>
      obtain ⟨body, rest, hr⟩ := r
      have reading := reads_of_descend hd
      obtain ⟨hrest, c, cs, rfl, hstop⟩ := reading.stops hts
      -- Only a choice has separators, so both judgements see the same body.
      have hbody : opensChoice t = false → separatorsOf body = [] := by
        intro ho
        rw [ho] at reading
        exact reading.separatorsOf_eq_nil
      change (c :: cs).foldlM (read limit) ((p.enter t).addAll body) = _
      rw [List.foldlM_cons]
      by_cases hc : c.kind = .closing
      · rw [read_closing hc, hchoice, close_eq_judge t body inChoice hbody]
        simp only [ok_bind, hc, if_true]
        cases judge t body inChoice with
        | error r => rfl
        | ok item =>
          have hcs : Ended cs := hrest.of_cons (by simp [hc])
          have others := ih₁ c cs hr (p := p.add item) hcs (by simp [hdepth]) (by simp [hchoice])
          refine others.trans ?_
          cases descend limit depth inChoice cs <;> rfl
      · have hf : c.kind = .finish := hstop.resolve_left hc
        obtain rfl := hrest.eq_nil hf
        rw [read_finish hf]
        simp only [ok_bind, hc, if_false]
        rfl

theorem followedBy_eq_ok {t : Token} {scan : Except Malformed (List Token)} {ts : List Token}
    (h : Token.followedBy t scan = .ok ts) : ∃ others, scan = .ok others ∧ ts = t :: others := by
  cases scan with
  | error m => cases h
  | ok others =>
    cases h
    exact ⟨others, rfl, rfl⟩

/-- A text that has tokens at all has them up to its end, once. -/
theorem ended_of_scanFrom {place : Place} {cs : List Char} {ts : List Token}
    (h : Token.scanFrom place cs = .ok ts) : Ended ts := by
  fun_induction Token.scanFrom place cs generalizing ts with
  | case1 place =>
    cases h
    exact .finish rfl
  | case2 => cases h
  | case3 place cs line rest hl ih =>
    obtain ⟨others, ho, rfl⟩ := followedBy_eq_ok h
    exact .cons (by simp) (ih ho)
  | case4 place cs ih =>
    obtain ⟨others, ho, rfl⟩ := followedBy_eq_ok h
    exact .cons (by simp) (ih ho)
  | case5 place c cs _ _ ih =>
    obtain ⟨others, ho, rfl⟩ := followedBy_eq_ok h
    exact .cons (by simp) (ih ho)

theorem ofTokens_eq_descendTokens (limit : Nat) {tokens : List Token} (ended : Ended tokens) :
    ofTokens limit tokens = descendTokens limit tokens := by
  unfold ofTokens descendTokens
  rw [foldlM_read (p := Progress.start) ended rfl rfl]
  simp only [Progress.start, List.length_nil, insideChoice]
  cases hd : descend limit 0 false tokens with
  | error r => rfl
  | ok r =>
    obtain ⟨items, rest, hr⟩ := r
    have reading := reads_of_descend hd
    obtain ⟨hrest, c, cs, rfl, hstop⟩ := reading.stops ended
    simp only [ok_bind, Progress.addAll_root, List.append_nil, List.foldlM_cons]
    by_cases hc : c.kind = .closing
    · simp only [read, hc, if_true]
      rfl
    · have hf : c.kind = .finish := hstop.resolve_left hc
      obtain rfl := hrest.eq_nil hf
      simp only [read, hf]
      simp [plainBlocks_eq reading.separatorsOf_eq_nil]
      rfl

theorem parseWithin_eq_descendText (limit : Nat) (text : String) :
    parseWithin limit text = descendText limit text := by
  unfold parseWithin descendText
  cases hs : Token.scan text with
  | error m => rfl
  | ok tokens => simp only [ofTokens_eq_descendTokens limit (ended_of_scanFrom hs)]

theorem one_le_of_parse {limit : Int} {text : String} {blocks : List Block}
    (h : parse limit text = .ok blocks) : 1 ≤ limit := by
  refine Int.not_lt.1 fun hlimit => ?_
  simp [parse, checkLimit, hlimit, bind, Except.bind] at h

theorem parse_eq_parseWithin {limit : Int} (h : 1 ≤ limit) (text : String) :
    parse limit text = parseWithin limit.toNat text := by
  rw [parse, checkLimit, if_neg (Int.not_lt.2 h)]
  rfl

/-- A template text is read like the recursion over its tokens reads it: the blocks are the same, and so
is a refusal, with its flaw, its place, and what is left of the text there. -/
theorem parse_eq_descendText (limit : Int) (text : String) :
    parse limit text
      = if limit < 1 then .error (.depthNotPositive limit) else descendText limit.toNat text := by
  unfold parse checkLimit
  split
  · rfl
  · exact parseWithin_eq_descendText limit.toNat text

end Stencil.Template
