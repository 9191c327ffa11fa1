import Mathlib
import Stencil.Proofs.Template.Closing

/-!
# Which limit a text needs

The limit competes with every other reason to refuse a text. Tokens alone say how many directives are open
where, separators of choices included, so they say where a limit is met first. Main statement: a text is too
deep exactly if an opening has as many directives open before it as the limit allows and all tokens before it
can be read; otherwise the limit changes nothing. So a text that can be read at all needs a limit of its
deepest nesting, and of one at least.
-/
namespace Stencil.Template

/-! ### Open directives -/

/-- How many directives are open behind a token that `depth` are open before. -/
def Token.depthAfter (depth : Nat) (t : Token) : Nat :=
  match t.kind with
  | .opening => depth + 1
  | .closing => depth - 1
  | .text | .finish => depth

/-- How many directives are open behind some tokens. -/
def depthAfter (depth : Nat) (ts : List Token) : Nat := ts.foldl Token.depthAfter depth

/-- How many directives are open at once at most. -/
def deepest (depth : Nat) : List Token → Nat
  | [] => depth
  | t :: ts => max depth (deepest (t.depthAfter depth) ts)

/-- Behind `before`, `t` opens one more directive than the limit allows. -/
structure OpensTooDeep (limit : Nat) (before : List Token) (t : Token) : Prop where
  opening : t.kind = .opening
  full : limit ≤ depthAfter 0 before

@[simp] theorem depthAfter_cons (depth : Nat) (t : Token) (ts : List Token) :
    depthAfter depth (t :: ts) = depthAfter (t.depthAfter depth) ts := rfl

theorem depthAfter_append (depth : Nat) (a b : List Token) :
    depthAfter depth (a ++ b) = depthAfter (depthAfter depth a) b := List.foldl_append

theorem le_deepest (depth : Nat) (ts : List Token) : depth ≤ deepest depth ts := by
  cases ts with
  | nil => exact Nat.le_refl depth
  | cons t ts => exact Nat.le_max_left _ _

theorem deepest_append (depth : Nat) (a b : List Token) :
    deepest depth (a ++ b) = max (deepest depth a) (deepest (depthAfter depth a) b) := by
  induction a generalizing depth with
  | nil => exact (Nat.max_eq_right (le_deepest depth b)).symm
  | cons t a ih => rw [List.cons_append, deepest, deepest, depthAfter_cons, ih, Nat.max_assoc]

theorem depthAfter_lt_deepest (depth : Nat) (before after : List Token) {t : Token} (kind : t.kind = .opening) :
    depthAfter depth before < deepest depth (before ++ t :: after) := by
  have h := le_deepest (t.depthAfter (depthAfter depth before)) after
  rw [deepest_append, deepest]
  simp only [Token.depthAfter, kind] at h ⊢
  omega

/-- Where the nesting goes beyond a limit, an opening is the first to do so. -/
theorem exists_first_of_lt_deepest {limit depth : Nat} {ts : List Token} (hdepth : depth ≤ limit)
    (h : limit < deepest depth ts) : ∃ before t after, ts = before ++ t :: after ∧ t.kind = .opening ∧
      deepest depth before ≤ limit ∧ depthAfter depth before = limit := by
  induction ts generalizing depth with
  | nil => exact absurd h (Nat.not_lt.2 hdepth)
  | cons t ts ih =>
    have hlater : limit < deepest (t.depthAfter depth) ts := by
      rw [deepest] at h
      omega
    by_cases hnow : t.depthAfter depth ≤ limit
    · obtain ⟨before, u, after, rfl, kind, hbefore, hfull⟩ := ih hnow hlater
      exact ⟨t :: before, u, after, rfl, kind, Nat.max_le.2 ⟨hdepth, hbefore⟩, hfull⟩
    · -- Only an opening adds to the depth, and it adds one.
      have hstep : t.kind = .opening ∧ depth = limit := by
        cases hk : t.kind <;> simp only [Token.depthAfter, hk] at hnow
        · omega
        · exact ⟨rfl, by omega⟩
        · omega
        · omega
      exact ⟨[], t, ts, rfl, hstep.1, hdepth, hstep.2⟩

/-! ### Reading without a limit -/

/-- Reads one token where there is always room for one more directive. -/
def readUnbounded (p : Progress) (t : Token) : Except Refusal Progress := read (p.stack.length + 1) p t

/-- The blocks of a template text, however deep its directives nest. -/
def parseUnbounded (text : String) : Except Error (List Block) :=
  match Token.scan text with
  | .error m => .error (.malformed m)
  | .ok tokens => Except.mapError (Refusal.toError 0 text) do
    let p ← tokens.foldlM readUnbounded Progress.start
    plainBlocks p.root.reverse

/-- The tokens are read without a refusal. -/
def Readable (ts : List Token) : Prop := ∃ p, ts.foldlM readUnbounded Progress.start = .ok p

theorem read_eq_readUnbounded {limit : Nat} {p : Progress} {t : Token}
    (room : t.kind = .opening → p.stack.length < limit) : read limit p t = readUnbounded p t := by
  unfold readUnbounded read
  cases hk : t.kind with
  | opening => simp [Nat.not_le.2 (room hk)]
  | text => rfl
  | closing => rfl
  | finish => rfl

theorem length_stack_of_read {limit : Nat} {p q : Progress} {t : Token} (h : read limit p t = .ok q) :
    q.stack.length = t.depthAfter p.stack.length := by
  unfold read at h
  unfold Token.depthAfter
  cases hk : t.kind with
  | text =>
    simp only [hk, Except.ok.injEq] at h
    split at h <;> simp [← h]
  | opening =>
    simp only [hk] at h
    split at h
    · cases h
    · split at h
      · cases h
      · cases h
        rfl
  | closing =>
    simp only [hk] at h
    split at h
    · cases h
    · rename_i hstack
      obtain ⟨item, -, hq⟩ := bind_eq_ok.1 h
      cases hq
      simp [hstack]
  | finish =>
    simp only [hk] at h
    split at h
    · cases h
      rfl
    · cases h

theorem length_stack_of_foldlM {ts : List Token} {p q : Progress} (h : ts.foldlM readUnbounded p = .ok q) :
    q.stack.length = depthAfter p.stack.length ts := by
  induction ts generalizing p with
  | nil =>
    cases h
    rfl
  | cons t ts ih =>
    rw [List.foldlM_cons] at h
    obtain ⟨p', hread, h⟩ := bind_eq_ok.1 h
    rw [ih h, length_stack_of_read hread, depthAfter_cons]

/-! ### Reading with a limit -/

/-- Tokens that nest within the limit are read as if there were none. -/
theorem foldlM_read_of_deepest_le {limit : Nat} {ts : List Token} {p : Progress}
    (h : deepest p.stack.length ts ≤ limit) : ts.foldlM (read limit) p = ts.foldlM readUnbounded p := by
  induction ts generalizing p with
  | nil => rfl
  | cons t ts ih =>
    have hread : read limit p t = readUnbounded p t := by
      refine read_eq_readUnbounded fun kind => ?_
      exact Nat.lt_of_lt_of_le (depthAfter_lt_deepest _ [] _ kind) h
    rw [List.foldlM_cons, List.foldlM_cons, hread]
    cases hp : readUnbounded p t with
    | error r => rfl
    | ok q =>
      refine ih ?_
      rw [length_stack_of_read hp]
      exact Nat.le_trans (Nat.le_max_right _ _) h

/-- The first opening beyond the limit ends the reading, unless something before it does. -/
theorem foldlM_read_of_first {limit : Nat} {before : List Token} (after : List Token) {t : Token} (p : Progress)
    (kind : t.kind = .opening) (hbefore : deepest p.stack.length before ≤ limit)
    (hfull : limit ≤ depthAfter p.stack.length before) :
    (before ++ t :: after).foldlM (read limit) p
      = before.foldlM readUnbounded p >>= fun _ => .error (.tooDeep t) := by
  rw [List.foldlM_append, foldlM_read_of_deepest_le hbefore]
  cases hq : before.foldlM readUnbounded p with
  | error r => rfl
  | ok q =>
    rw [← length_stack_of_foldlM hq] at hfull
    change (t :: after).foldlM (read limit) q = _
    rw [List.foldlM_cons, read_tooDeep kind hfull]
    rfl

/-! ### Refusals for a flaw -/

/-- Not refused for its depth. -/
def NotTooDeep {α : Type} (x : Except Refusal α) : Prop := ∀ t, x ≠ .error (.tooDeep t)

theorem notTooDeep_ok {α : Type} (a : α) : NotTooDeep (.ok a) := by
  rintro t ⟨⟩

theorem notTooDeep_flawed {α : Type} (flaw : Flaw) (t : Token) :
    NotTooDeep (.error (.flawed flaw t) : Except Refusal α) := by
  rintro u ⟨⟩

theorem NotTooDeep.bind {α β : Type} {x : Except Refusal α} {f : α → Except Refusal β} (hx : NotTooDeep x)
    (hf : ∀ a, NotTooDeep (f a)) : NotTooDeep (x >>= f) := by
  cases x with
  | ok a => exact hf a
  | error r =>
    rintro t ⟨⟩
    exact hx t rfl

theorem notTooDeep_plainBlocks (items : List Item) : NotTooDeep (plainBlocks items) := by
  induction items with
  | nil => exact notTooDeep_ok []
  | cons i items ih =>
    cases i with
    | block b => exact ih.bind fun bs => notTooDeep_ok _
    | separator t => exact notTooDeep_flawed _ _

theorem notTooDeep_close (t : Token) (items : List Item) (inChoice : Bool) :
    NotTooDeep (close t items inChoice) := by
  have hbody {f : List Block → Item} : NotTooDeep (plainBlocks items >>= fun bs => .ok (f bs)) :=
    (notTooDeep_plainBlocks items).bind fun bs => notTooDeep_ok _
  have hargument (k : Header.Keyword) (argument : String) : NotTooDeep (requireArgument k argument t) := by
    unfold requireArgument
    split
    · exact notTooDeep_flawed _ _
    · exact notTooDeep_ok _
  unfold close
  split
  split
  · split_ifs <;> first | exact notTooDeep_flawed _ _ | exact notTooDeep_ok _
  · refine (hargument _ _).bind fun _ => ?_
    split
    · exact notTooDeep_flawed _ _
    · split
      · exact notTooDeep_flawed _ _
      · exact (notTooDeep_plainBlocks _).bind fun _ => (notTooDeep_plainBlocks _).bind fun _ => notTooDeep_ok _
  · exact (hargument _ _).bind fun _ => hbody
  · refine (hargument _ _).bind fun _ => ?_
    split_ifs
    · exact notTooDeep_flawed _ _
    · exact notTooDeep_ok _
  · refine (hargument _ _).bind fun _ => ?_
    split
    · exact notTooDeep_flawed _ _
    · exact hbody
  · exact hbody

theorem notTooDeep_readUnbounded (p : Progress) (t : Token) : NotTooDeep (readUnbounded p t) := by
  unfold readUnbounded read
  cases t.kind with
  | text => exact notTooDeep_ok _
  | opening =>
    simp only [ge_iff_le, Nat.not_succ_le_self, if_false]
    split
    · exact notTooDeep_flawed _ _
    · exact notTooDeep_ok _
  | closing =>
    cases p.stack with
    | nil => exact notTooDeep_flawed _ _
    | cons f fs => exact (notTooDeep_close _ _ _).bind fun item => notTooDeep_ok _
  | finish =>
    cases p.stack with
    | nil => exact notTooDeep_ok _
    | cons f fs => exact notTooDeep_flawed _ _

theorem notTooDeep_foldlM (ts : List Token) (p : Progress) : NotTooDeep (ts.foldlM readUnbounded p) := by
  induction ts generalizing p with
  | nil => exact notTooDeep_ok p
  | cons t ts ih =>
    rw [List.foldlM_cons]
    exact (notTooDeep_readUnbounded p t).bind ih

/-! ### Texts -/

theorem Readable.of_append {a b : List Token} (h : Readable (a ++ b)) : Readable a := by
  obtain ⟨q, hq⟩ := h
  rw [List.foldlM_append] at hq
  obtain ⟨p, hp, -⟩ := bind_eq_ok.1 hq
  exact ⟨p, hp⟩

/-- Tokens within the limit end before the first opening that is not, or there. -/
theorem prefix_of_opensTooDeep {limit : Nat} {before after before' after' : List Token} {t t' : Token}
    (hbefore : deepest 0 before ≤ limit) (h : OpensTooDeep limit before' t')
    (htokens : before ++ t :: after = before' ++ t' :: after') : before <+: before' := by
  obtain ⟨rest, rfl, -⟩ | ⟨rest, rfl, hrest⟩ := List.append_eq_append_iff.1 htokens
  · exact List.prefix_append _ _
  · cases rest with
    | nil => simp
    | cons u rest =>
      obtain ⟨rfl, -⟩ := List.cons.inj hrest
      have hlt := depthAfter_lt_deepest 0 before' rest h.opening
      have hfull := h.full
      omega

theorem mapError_toError {x : Except Refusal (List Block)} (h : NotTooDeep x) (limit limit' : Nat)
    (text : String) : x.mapError (Refusal.toError limit text) = x.mapError (Refusal.toError limit' text) := by
  cases x with
  | ok blocks => rfl
  | error r =>
    cases r with
    | flawed flaw t => rfl
    | tooDeep t => exact absurd rfl (h t)

theorem parseUnbounded_ne_tooDeep (text : String) (bound : Int) (activity : String) :
    parseUnbounded text ≠ .error (.tooDeep bound activity) := by
  unfold parseUnbounded
  cases Token.scan text with
  | error m => simp
  | ok tokens =>
    have h : NotTooDeep (tokens.foldlM readUnbounded Progress.start >>= fun p => plainBlocks p.root.reverse) :=
      (notTooDeep_foldlM tokens _).bind fun p => notTooDeep_plainBlocks _
    change Except.mapError (Refusal.toError 0 text) (_ >>= _) ≠ _
    generalize tokens.foldlM readUnbounded Progress.start >>= (fun p => plainBlocks p.root.reverse) = x at h ⊢
    cases x with
    | ok blocks => simp [Except.mapError]
    | error r =>
      cases r with
      | flawed flaw t => simp [Except.mapError, Refusal.toError]
      | tooDeep t => exact absurd rfl (h t)

section

variable {text : String} {tokens : List Token} (hscan : Token.scan text = .ok tokens)

include hscan

theorem parseUnbounded_eq : parseUnbounded text = Except.mapError (Refusal.toError 0 text)
    (tokens.foldlM readUnbounded Progress.start >>= fun p => plainBlocks p.root.reverse) := by
  unfold parseUnbounded
  simp only [hscan]

theorem readable_of_parseUnbounded {blocks : List Block} (h : parseUnbounded text = .ok blocks) :
    Readable tokens := by
  rw [parseUnbounded_eq hscan] at h
  obtain ⟨p, hp, -⟩ := bind_eq_ok.1 (mapError_eq_ok.1 h)
  exact ⟨p, hp⟩

/-- A text that nests within the limit is read as if there were none. -/
theorem parseWithin_of_deepest_le {limit : Nat} (h : deepest 0 tokens ≤ limit) :
    parseWithin limit text = parseUnbounded text := by
  rw [parseUnbounded_eq hscan]
  unfold parseWithin ofTokens
  simp only [hscan]
  rw [foldlM_read_of_deepest_le h]
  exact mapError_toError ((notTooDeep_foldlM tokens _).bind fun p => notTooDeep_plainBlocks _) _ _ _

end

/-- A limit is not met, or it refuses the first opening beyond it. -/
theorem parseWithin_cases (limit : Nat) (text : String) :
    (parseWithin limit text = parseUnbounded text ∧ ∀ before t after,
      Token.scan text = .ok (before ++ t :: after) → OpensTooDeep limit before t → ¬ Readable before) ∨
      ∃ before t after, Token.scan text = .ok (before ++ t :: after) ∧ OpensTooDeep limit before t ∧
        deepest 0 before ≤ limit ∧ Readable before ∧
        parseWithin limit text = .error (.tooDeep limit s!"parsing line {t.place.line}") := by
  cases hscan : Token.scan text with
  | error m =>
    refine .inl ⟨?_, by simp⟩
    simp only [parseWithin, parseUnbounded, hscan]
  | ok tokens =>
    by_cases hdeep : deepest 0 tokens ≤ limit
    · refine .inl ⟨parseWithin_of_deepest_le hscan hdeep, ?_⟩
      rintro before t after htokens ⟨opening, full⟩
      cases htokens
      have hlt := depthAfter_lt_deepest 0 before after opening
      omega
    · obtain ⟨before, t, after, rfl, opening, hbefore, full⟩ :=
        exists_first_of_lt_deepest (Nat.zero_le limit) (Nat.lt_of_not_le hdeep)
      have hread := foldlM_read_of_first after Progress.start opening hbefore full.ge
      cases hp : before.foldlM readUnbounded Progress.start with
      | ok p =>
        refine .inr ⟨before, t, after, rfl, ⟨opening, full.ge⟩, hbefore, ⟨p, hp⟩, ?_⟩
        simp only [parseWithin, ofTokens, hscan, hread, hp]
        rfl
      | error r =>
        have hflaw := notTooDeep_foldlM before Progress.start
        refine .inl ⟨?_, fun before' t' after' htokens h hreadable => ?_⟩
        · -- Both readings end with what is wrong before `t`.
          have hunbounded : (before ++ t :: after).foldlM readUnbounded Progress.start = .error r := by
            rw [List.foldlM_append, hp]
            rfl
          rw [parseUnbounded_eq hscan, hunbounded]
          simp only [parseWithin, ofTokens, hscan, hread, hp]
          have hr : NotTooDeep (.error r : Except Refusal (List Block)) := by
            rintro u hu
            cases hu
            exact hflaw u hp
          exact mapError_toError hr _ _ _
        · obtain ⟨rest, rfl⟩ := prefix_of_opensTooDeep hbefore h (Except.ok.inj htokens)
          obtain ⟨q, hq⟩ := hreadable.of_append
          rw [hp] at hq
          cases hq

theorem parse_natCast {limit : Nat} (h : 1 ≤ limit) (text : String) :
    parse limit text = parseWithin limit text := by
  rw [parse_eq_parseWithin (by omega), Int.toNat_natCast]

/-- The limits under which a text can be read begin at its deepest nesting. -/
theorem isLeast_limit {text : String} {tokens : List Token} (hscan : Token.scan text = .ok tokens)
    {blocks : List Block} (h : parseUnbounded text = .ok blocks) :
    IsLeast {limit : Int | ∃ blocks, parse limit text = .ok blocks} (max 1 (deepest 0 tokens) : Nat) := by
  constructor
  · refine ⟨blocks, ?_⟩
    rw [parse_natCast (by omega), parseWithin_of_deepest_le hscan (by omega), h]
  · rintro limit ⟨blocks', hparse⟩
    have hlimit := one_le_of_parse hparse
    rw [parse_eq_parseWithin hlimit] at hparse
    have hdeep : deepest 0 tokens ≤ limit.toNat := by
      by_contra hlt
      obtain ⟨before, t, after, rfl, opening, -, full⟩ :=
        exists_first_of_lt_deepest (Nat.zero_le _) (Nat.lt_of_not_le hlt)
      obtain ⟨-, hunreadable⟩ | ⟨_, u, _, -, -, -, -, hrefused⟩ := parseWithin_cases limit.toNat text
      · exact hunreadable _ _ _ hscan ⟨opening, full.ge⟩ (readable_of_parseUnbounded hscan h).of_append
      · rw [hparse] at hrefused
        cases hrefused
    omega

/-! ### Nesting of the tree -/

/-- How many levels of directives an item has. A separator is a directive of its own. -/
def Item.levels : Item → Nat
  | block b => b.nesting
  | separator _ => 1

def levelsOf : List Item → Nat
  | [] => 0
  | i :: items => max i.levels (levelsOf items)

theorem levelsOf_append (a b : List Item) : levelsOf (a ++ b) = max (levelsOf a) (levelsOf b) := by
  induction a with
  | nil => simp [levelsOf]
  | cons i a ih => rw [List.cons_append, levelsOf, levelsOf, ih, Nat.max_assoc]

@[simp] theorem levelsOf_itemsOf (blocks : List Block) : levelsOf (itemsOf blocks) = Block.nestings blocks := by
  induction blocks with
  | nil => rfl
  | cons b blocks ih => exact congrArg (max b.nesting) ih

/-- A directive is one deeper than its body. -/
theorem Closed.levels {t : Token} {inChoice : Bool} {body : List Item} {item : Item}
    (h : Closed t inChoice body item) : item.levels = levelsOf body + 1 := by
  cases h with
  | separator => rfl
  | choice header nonempty e children otherwise =>
    rw [levelsOf_append, levelsOf, levelsOf_itemsOf, levelsOf_itemsOf]
    simp only [Item.levels, Block.nesting]
    omega
  | guard | transform | group =>
    rw [levelsOf_itemsOf]
    rfl
  | inclusion => rfl

/-- A body leaves no directive open, and its tokens nest as deep as its items. -/
theorem Reads.deepest_eq {limit depth : Nat} {inChoice : Bool} {ts rest : List Token} {items : List Item}
    (h : Reads limit depth inChoice ts items rest) : ∃ body, ts = body ++ rest ∧
      ∀ n, depthAfter n body = n ∧ deepest n body = n + levelsOf items := by
  induction h with
  | nil => exact ⟨[], rfl, fun n => ⟨rfl, rfl⟩⟩
  | stop => exact ⟨[], rfl, fun n => ⟨rfl, rfl⟩⟩
  | @blank _ _ t _ _ _ kind _ _ ih =>
    obtain ⟨body, rfl, hbody⟩ := ih
    refine ⟨t :: body, rfl, fun n => ?_⟩
    have ht : t.depthAfter n = n := by simp [Token.depthAfter, kind]
    simp [deepest, ht, hbody n]
  | @text _ _ t _ _ _ kind _ _ ih =>
    obtain ⟨body, rfl, hbody⟩ := ih
    refine ⟨t :: body, rfl, fun n => ?_⟩
    have ht : t.depthAfter n = n := by simp [Token.depthAfter, kind]
    simp [deepest, ht, hbody n, levelsOf, Item.levels, Block.nesting]
  | @directive _ _ t c _ _ _ _ item _ kind _ _ inner close verdict _ ih ih' =>
    obtain ⟨body, rfl, hbody⟩ := ih
    obtain ⟨others, rfl, hothers⟩ := ih'
    have hitem : item.levels = _ := (closed_of_close (inner.close_of_judge verdict)).levels
    refine ⟨t :: (body ++ c :: others), by simp, fun n => ?_⟩
    have ht : t.depthAfter n = n + 1 := by simp [Token.depthAfter, kind]
    have hc : c.depthAfter (n + 1) = n := by simp [Token.depthAfter, close]
    constructor
    · rw [depthAfter_cons, ht, depthAfter_append, (hbody _).1, depthAfter_cons, hc, (hothers n).1]
    · rw [deepest, ht, deepest_append, (hbody _).1, (hbody _).2, deepest, hc, (hothers n).2,
        levelsOf, hitem]
      omega

/-- The tokens of a text nest as deep as its blocks, where the separator of a choice takes a level too. -/
theorem deepest_of_parse {limit : Int} {text : String} {blocks : List Block}
    (h : parse limit text = .ok blocks) :
    ∃ tokens, Token.scan text = .ok tokens ∧ deepest 0 tokens = Block.nestings blocks := by
  rw [parse_eq_parseWithin (one_le_of_parse h), parseWithin_eq_descendText, descendText] at h
  split at h
  · cases h
  rename_i tokens hscan
  obtain ⟨rest, reading, hrest⟩ := reads_whole_of_descendTokens (mapError_eq_ok.1 h)
  obtain ⟨hended, e, others, rfl, hstop⟩ := reading.stops (ended_of_scanFrom hscan)
  have hfinish : e.kind = .finish := hstop.resolve_left (hrest e rfl)
  obtain rfl := hended.eq_nil hfinish
  obtain ⟨body, rfl, hbody⟩ := reading.deepest_eq
  refine ⟨body ++ [e], hscan, ?_⟩
  rw [deepest_append, (hbody 0).1, (hbody 0).2, levelsOf_itemsOf]
  simp [deepest, Token.depthAfter, hfinish]

/-- What a limit lets through nests within it. -/
theorem nestings_le_of_parse {limit : Int} {text : String} {blocks : List Block}
    (h : parse limit text = .ok blocks) : Block.nestings blocks ≤ limit := by
  obtain ⟨tokens, hscan, hdeepest⟩ := deepest_of_parse h
  have hlimit := one_le_of_parse h
  rw [parse_eq_parseWithin hlimit] at h
  obtain ⟨hsame, -⟩ | ⟨before, t, after, -, -, -, -, hrefused⟩ := parseWithin_cases limit.toNat text
  · rw [hsame] at h
    have hleast := (isLeast_limit hscan h).2 ⟨blocks, by rw [parse_eq_parseWithin hlimit, hsame, h]⟩
    omega
  · rw [h] at hrefused
    cases hrefused

/-- The limit on nesting is exact. A text is too deep if and only if an opening has `limit` or more directives
open before it and all tokens before it can be read; then the first such opening is told of. In every other
case the limit changes nothing, and the least limit for a text that can be read is its deepest nesting, or one
if it has no directives. -/
theorem limit_exact {limit : Nat} (hlimit : 1 ≤ limit) (text : String) :
    ((∃ bound activity, parse limit text = .error (.tooDeep bound activity)) ↔
      ∃ before t after, Token.scan text = .ok (before ++ t :: after) ∧ OpensTooDeep limit before t ∧
        Readable before) ∧
      (∀ bound activity, parse limit text = .error (.tooDeep bound activity) →
        bound = limit ∧ ∃ before t after, Token.scan text = .ok (before ++ t :: after) ∧
          OpensTooDeep limit before t ∧
          (∀ front u others, before = front ++ u :: others → ¬ OpensTooDeep limit front u) ∧
          activity = s!"parsing line {t.place.line}") ∧
      ((∀ bound activity, parse limit text ≠ .error (.tooDeep bound activity)) →
        parse limit text = parseUnbounded text) ∧
      ∀ tokens blocks, Token.scan text = .ok tokens → parseUnbounded text = .ok blocks →
        IsLeast {bound : Int | ∃ blocks, parse bound text = .ok blocks} (max 1 (deepest 0 tokens) : Nat) := by
  rw [parse_natCast hlimit]
  refine ⟨?_, ?_, ?_, fun tokens blocks hscan h => isLeast_limit hscan h⟩
  · constructor
    · rintro ⟨bound, activity, h⟩
      obtain ⟨hsame, -⟩ | ⟨before, t, after, hscan, hopens, -, hreadable, -⟩ := parseWithin_cases limit text
      · rw [hsame] at h
        exact absurd h (parseUnbounded_ne_tooDeep text _ _)
      · exact ⟨before, t, after, hscan, hopens, hreadable⟩
    · rintro ⟨before, t, after, hscan, hopens, hreadable⟩
      obtain ⟨-, hunreadable⟩ | ⟨_, u, _, -, -, -, -, hrefused⟩ := parseWithin_cases limit text
      · exact absurd hreadable (hunreadable before t after hscan hopens)
      · exact ⟨_, _, hrefused⟩
  · intro bound activity h
    obtain ⟨hsame, -⟩ | ⟨before, t, after, hscan, hopens, hbefore, -, hrefused⟩ := parseWithin_cases limit text
    · rw [hsame] at h
      exact absurd h (parseUnbounded_ne_tooDeep text _ _)
    · rw [hrefused] at h
      cases h
      refine ⟨rfl, before, t, after, hscan, hopens, ?_, rfl⟩
      rintro front u others rfl ⟨opening, full⟩
      have hlt := depthAfter_lt_deepest 0 front others opening
      omega
  · intro h
    obtain ⟨hsame, -⟩ | ⟨before, t, after, -, -, -, -, hrefused⟩ := parseWithin_cases limit text
    · exact hsame
    · exact absurd hrefused (h _ _)

/-- The separator of a choice takes a level of its own, and here that is one too many, although the flaw of
the choice comes first in the text. -/
theorem limit_exact_separator :
    let text := "!!% a\n!!% ifelse\n!!% else\n%!!%!!%!!"
    1 ≤ 2 ∧ parse 2 text = .error (.tooDeep 2 "parsing line 3") ∧
      ∃ before t after, Token.scan text = .ok (before ++ t :: after) ∧ OpensTooDeep 2 before t ∧
        Readable before := by
  intro text
  have hlimit : 1 ≤ 2 := by decide
  have h : parse 2 text = .error (.tooDeep 2 "parsing line 3") := by cbv
  exact ⟨hlimit, h, (limit_exact hlimit text).1.1 ⟨2, _, h⟩⟩

end Stencil.Template
