import Stencil.Template.Parse

/-!
# Reading by recursive descent

The grammar of templates as a recursion: a body is read up to the closing marker or the end of the text,
and what its directive is gets judged behind it, with the separators among its items at hand. A body knows
whether a choice is directly around it.
-/
namespace Stencil.Template

open Header (Keyword)

/-! ### Items of a body -/

namespace Item

def separator? : Item → Option Token
  | separator t => some t
  | block _ => none

def block? : Item → Option Block
  | separator _ => none
  | block b => some b

def isBlock (i : Item) : Bool := i.block?.isSome

end Item

/-- The blocks among some items. -/
def blocksOf (items : List Item) : List Block := items.filterMap Item.block?

/-- The separators among some items. -/
def separatorsOf (items : List Item) : List Token := items.filterMap Item.separator?

@[simp] theorem separatorsOf_block (b : Block) (items : List Item) :
    separatorsOf (.block b :: items) = separatorsOf items := rfl

@[simp] theorem separatorsOf_separator (t : Token) (items : List Item) :
    separatorsOf (.separator t :: items) = t :: separatorsOf items := rfl

@[simp] theorem blocksOf_block (b : Block) (items : List Item) :
    blocksOf (.block b :: items) = b :: blocksOf items := rfl

@[simp] theorem blocksOf_separator (t : Token) (items : List Item) :
    blocksOf (.separator t :: items) = blocksOf items := rfl

theorem separatorsOf_append (a b : List Item) :
    separatorsOf (a ++ b) = separatorsOf a ++ separatorsOf b := List.filterMap_append

/-- A block of a directive that has no meaning without an argument. -/
def withArgument (keyword argument : String) (t : Token) (block : Except Refusal Block) :
    Except Refusal Item :=
  if argument = "" then .error (.flawed (.missingArgument keyword) t) else block.map .block

/-- What a directive with header token `t` and body `items` is. -/
def judge (t : Token) (items : List Item) (inChoice : Bool) : Except Refusal Item :=
  let (word, argument) := Header.split t.value
  match Header.keyword? word with
  | some .separator =>
    if inChoice = false then .error (.flawed .elseOutside t)
    else if argument ≠ "" then .error (.flawed .elseArgument t)
    else if items ≠ [] then .error (.flawed .elseBody t)
    else .ok (.separator t)
  | some .choice => withArgument "ifelse" argument t <|
    match separatorsOf items with
    | [] => .error (.flawed .missingElse t)
    | [_] => .ok (.choice argument (blocksOf (items.takeWhile Item.isBlock))
        (blocksOf (items.dropWhile Item.isBlock)))
    | _ :: second :: _ => .error (.flawed .repeatedElse second)
  | some .guard => withArgument "if" argument t <| .ok (.directive (.guard argument) (blocksOf items))
  | some .inclusion => withArgument "include" argument t <|
    if items ≠ [] then .error (.flawed .includeBody t) else .ok (.directive (.inclusion argument) [])
  | some .transform => withArgument "transform" argument t <|
    match Header.splitTransform argument with
    | none => .error (.flawed .badTransform t)
    | some (name, expression) => .ok (.directive (.transform name expression) (blocksOf items))
  | none => .ok (.block (.directive (.group t.value) (blocksOf items)))

/-- Does the header choose between two branches? -/
def opensChoice (t : Token) : Bool := (Header.split t.value).1 == "ifelse"

/-- Reads items up to a closing marker or the end, inside `depth` directives of which the innermost is a
choice or not. What follows the items begins with the closing marker or the end. -/
def descend (limit depth : Nat) (inChoice : Bool) (tokens : List Token) :
    Except Refusal (List Item × { rest : List Token // rest <:+ tokens }) :=
  match tokens with
  | [] => .ok ([], ⟨[], List.suffix_rfl⟩)
  | t :: ts =>
    match t.kind with
    | .closing | .finish => .ok ([], ⟨t :: ts, List.suffix_rfl⟩)
    | .text => do
      let (items, ⟨rest, h⟩) ← descend limit depth inChoice ts
      let content := Text.strip t.value
      return (if content = "" then items else .block (.text content) :: items,
        ⟨rest, h.trans (List.suffix_cons t ts)⟩)
    | .opening =>
      if limit ≤ depth then .error (.tooDeep t)
      else if t.value = "" then .error (.flawed .emptyHeader t)
      else do
        let (body, rest) ← descend limit (depth + 1) (opensChoice t) ts
        match rest with
        | ⟨[], _⟩ => .error (.flawed (.unclosed t.value) t)
        | ⟨c :: cs, h⟩ =>
          if c.kind = .closing then do
            let item ← judge t body inChoice
            let (items, ⟨rest', h'⟩) ← descend limit depth inChoice cs
            return (item :: items, ⟨rest',
              h'.trans ((List.suffix_cons c cs).trans (h.trans (List.suffix_cons t ts)))⟩)
          else .error (.flawed (.unclosed t.value) t)
  termination_by tokens.length
  decreasing_by
    · simp
    · simp
    · have := h.length_le
      simp only [List.length_cons] at this ⊢
      omega

/-- The blocks that a sequence of tokens spells. No directive is open at its top, so a closing marker there
has nothing to close. -/
def descendTokens (limit : Nat) (tokens : List Token) : Except Refusal (List Block) := do
  let (items, ⟨rest, _⟩) ← descend limit 0 false tokens
  match rest with
  | [] => return blocksOf items
  | t :: _ =>
    if t.kind = .closing then .error (.flawed .unmatchedClosing t)
    else return blocksOf items

/-- The blocks of a template text. The tokens of the whole text come before all else. -/
def descendText (limit : Nat) (text : String) : Except Error (List Block) :=
  match Token.scan text with
  | .error m => .error (.malformed m)
  | .ok tokens => (descendTokens limit tokens).mapError (Refusal.toError limit text)

/-! ### Successful readings -/

/-- The readings that succeed, one rule for each way a body goes on. -/
inductive Reads (limit : Nat) : (depth : Nat) → (inChoice : Bool) → (tokens : List Token) →
    (items : List Item) → (rest : List Token) → Prop
  | nil {depth : Nat} {inChoice : Bool} : Reads limit depth inChoice [] [] []
  | stop {depth : Nat} {inChoice : Bool} {t : Token} {ts : List Token}
      (kind : t.kind = .closing ∨ t.kind = .finish) : Reads limit depth inChoice (t :: ts) [] (t :: ts)
  | blank {depth : Nat} {inChoice : Bool} {t : Token} {ts rest : List Token} {items : List Item}
      (kind : t.kind = .text) (content : Text.strip t.value = "")
      (others : Reads limit depth inChoice ts items rest) :
      Reads limit depth inChoice (t :: ts) items rest
  | text {depth : Nat} {inChoice : Bool} {t : Token} {ts rest : List Token} {items : List Item}
      (kind : t.kind = .text) (content : Text.strip t.value ≠ "")
      (others : Reads limit depth inChoice ts items rest) :
      Reads limit depth inChoice (t :: ts) (.block (.text (Text.strip t.value)) :: items) rest
  | directive {depth : Nat} {inChoice : Bool} {t c : Token} {ts cs rest : List Token} {body : List Item}
      {item : Item} {items : List Item} (kind : t.kind = .opening) (room : depth < limit)
      (header : t.value ≠ "") (inner : Reads limit (depth + 1) (opensChoice t) ts body (c :: cs))
      (close : c.kind = .closing) (verdict : judge t body inChoice = .ok item)
      (others : Reads limit depth inChoice cs items rest) :
      Reads limit depth inChoice (t :: ts) (item :: items) rest

@[simp] theorem ok_bind {ε α β : Type} (a : α) (f : α → Except ε β) :
    (.ok a : Except ε α) >>= f = f a := rfl

theorem bind_eq_ok {ε α β : Type} {x : Except ε α} {f : α → Except ε β} {b : β} :
    x >>= f = .ok b ↔ ∃ a, x = .ok a ∧ f a = .ok b := by
  cases x <;> simp [bind, Except.bind]

theorem bind_eq_error {ε α β : Type} {x : Except ε α} {f : α → Except ε β} {e : ε} :
    x >>= f = .error e ↔ x = .error e ∨ ∃ a, x = .ok a ∧ f a = .error e := by
  cases x <;> simp [bind, Except.bind]

theorem mapError_eq_ok {ε ε' α : Type} {x : Except ε α} {f : ε → ε'} {a : α} :
    x.mapError f = .ok a ↔ x = .ok a := by
  cases x with
  | ok b =>
    constructor <;>
    · intro h
      cases h
      rfl
  | error e =>
    constructor <;>
    · intro h
      cases h

theorem reads_of_descend {limit depth : Nat} {inChoice : Bool} {tokens : List Token}
    {items : List Item} {rest : { rest : List Token // rest <:+ tokens }}
    (h : descend limit depth inChoice tokens = .ok (items, rest)) :
    Reads limit depth inChoice tokens items rest := by
  fun_induction descend limit depth inChoice tokens generalizing items with
  | case1 =>
    cases h
    exact .nil
  | case2 depth inChoice t ts hk =>
    cases h
    exact .stop (.inl hk)
  | case3 depth inChoice t ts hk =>
    cases h
    exact .stop (.inr hk)
  | case4 depth inChoice t ts hk ih =>
    obtain ⟨⟨others, rest'⟩, hd, h⟩ := bind_eq_ok.1 h
    cases h
    by_cases hc : Text.strip t.value = ""
    · simp only [hc, if_true]
      exact .blank hk hc (ih hd)
    · simp only [hc, if_false]
      exact .text hk hc (ih hd)
  | case5 => cases h
  | case6 => cases h
  | case7 depth inChoice t ts hk hroom hv ih₂ ih₁ =>
    obtain ⟨⟨body, rest', hr⟩, hd, h⟩ := bind_eq_ok.1 h
    cases rest' with
    | nil => cases h
    | cons c cs =>
      by_cases hc : c.kind = .closing
      · simp only [hc, if_true] at h
        obtain ⟨item, hj, h⟩ := bind_eq_ok.1 h
        obtain ⟨⟨others, rest'⟩, ho, h⟩ := bind_eq_ok.1 h
        cases h
        exact .directive hk (Nat.lt_of_not_le hroom) hv (ih₂ hd) hc hj (ih₁ c cs hr ho)
      · simp only [hc, if_false] at h
        cases h

theorem withArgument_eq_ok {keyword argument : String} {t : Token} {block : Except Refusal Block}
    {item : Item} (h : withArgument keyword argument t block = .ok item) :
    argument ≠ "" ∧ ∃ b, block = .ok b ∧ item = .block b := by
  unfold withArgument at h
  split at h
  · cases h
  · rename_i ha
    cases hb : block with
    | error r => simp [hb, Except.map] at h
    | ok b =>
      simp only [hb, Except.map, Except.ok.injEq] at h
      exact ⟨ha, b, rfl, h.symm⟩

/-- Outside a choice, a directive is a block. -/
theorem exists_block_of_judge {t : Token} {items : List Item} {item : Item}
    (h : judge t items false = .ok item) : ∃ b, item = .block b := by
  unfold judge at h
  split at h
  split at h
  · cases h
  · obtain ⟨-, b, -, rfl⟩ := withArgument_eq_ok h
    exact ⟨b, rfl⟩
  · obtain ⟨-, b, -, rfl⟩ := withArgument_eq_ok h
    exact ⟨b, rfl⟩
  · obtain ⟨-, b, -, rfl⟩ := withArgument_eq_ok h
    exact ⟨b, rfl⟩
  · obtain ⟨-, b, -, rfl⟩ := withArgument_eq_ok h
    exact ⟨b, rfl⟩
  · cases h
    exact ⟨_, rfl⟩

/-- Only bodies of choices have separators. -/
theorem Reads.separatorsOf_eq_nil {limit depth : Nat} {ts rest : List Token} {items : List Item}
    (h : Reads limit depth false ts items rest) : separatorsOf items = [] := by
  generalize hc : false = inChoice at h
  induction h with
  | nil => rfl
  | stop => rfl
  | blank _ _ _ ih => exact ih hc
  | text _ _ _ ih => exact ih hc
  | directive _ _ _ _ _ verdict _ _ ih =>
    subst hc
    obtain ⟨b, rfl⟩ := exists_block_of_judge verdict
    exact ih rfl

/-! ### Two judgements -/

theorem keyword?_eq_choice_iff (word : String) : Header.keyword? word = some .choice ↔ word = "ifelse" := by
  constructor
  · intro h
    have hw := List.find?_some h
    simp only [Keyword.word, beq_iff_eq] at hw
    exact hw.symm
  · rintro rfl
    rfl

theorem keywordOf?_eq_choice (t : Token) :
    (Header.keywordOf? t.value == some .choice) = opensChoice t := by
  rw [Bool.eq_iff_iff]
  simp [Header.keywordOf?, keyword?_eq_choice_iff, opensChoice]

theorem plainBlocks_eq {items : List Item} (h : separatorsOf items = []) :
    plainBlocks items = .ok (blocksOf items) := by
  induction items with
  | nil => rfl
  | cons i items ih =>
    cases i with
    | separator t => simp at h
    | block b => simp [plainBlocks, ih h, bind, Except.bind, pure, Except.pure]

theorem splitAtSeparator_eq_none_iff (items : List Item) :
    splitAtSeparator items = none ↔ separatorsOf items = [] := by
  induction items with
  | nil => simp [splitAtSeparator, separatorsOf]
  | cons i items ih => cases i <;> simp [splitAtSeparator, ih]

theorem splitAtSeparator_eq_some {items l r : List Item} (h : splitAtSeparator items = some (l, r)) :
    ∃ t, items = l ++ .separator t :: r ∧ separatorsOf l = [] := by
  induction items generalizing l with
  | nil => simp [splitAtSeparator] at h
  | cons i items ih =>
    cases i with
    | separator t =>
      simp only [splitAtSeparator, Option.some.injEq, Prod.mk.injEq] at h
      obtain ⟨rfl, rfl⟩ := h
      exact ⟨t, rfl, rfl⟩
    | block b =>
      obtain ⟨⟨l', r'⟩, hs, he⟩ := Option.map_eq_some_iff.1 h
      simp only [Prod.mk.injEq] at he
      obtain ⟨rfl, rfl⟩ := he
      obtain ⟨t, rfl, hl⟩ := ih hs
      exact ⟨t, rfl, hl⟩

theorem firstSeparator?_eq (items : List Item) : firstSeparator? items = (separatorsOf items).head? := by
  induction items with
  | nil => rfl
  | cons i items ih => cases i <;> simp [firstSeparator?, ih]

@[simp] theorem requireArgument_bind {α : Type} (keyword : Keyword) (argument : String) (t : Token)
    (f : Unit → Except Refusal α) :
    requireArgument keyword argument t >>= f
      = if argument = "" then .error (.flawed (.missingArgument keyword.word) t) else f () := by
  unfold requireArgument
  split <;> rfl

/-- The items around the only separator. -/
theorem isBlock_of_separatorsOf_eq_nil {items : List Item} (h : separatorsOf items = []) :
    ∀ i ∈ items, i.isBlock = true := by
  induction items with
  | nil => simp
  | cons i items ih =>
    cases i with
    | separator t => simp at h
    | block b => simpa [Item.isBlock, Item.block?] using ih h

/-- The reader of tokens and the recursion judge a directive alike, as only a choice finds separators
among its items. -/
theorem close_eq_judge (t : Token) (items : List Item) (inChoice : Bool)
    (h : opensChoice t = false → separatorsOf items = []) :
    close t items inChoice = judge t items inChoice := by
  unfold close judge
  rcases hs : Header.split t.value with ⟨word, argument⟩
  have hplain (hk : Header.keyword? word ≠ some .choice) :
      plainBlocks items = .ok (blocksOf items) := by
    apply plainBlocks_eq
    apply h
    rw [ne_eq, keyword?_eq_choice_iff] at hk
    simpa [opensChoice, hs] using hk
  cases hk : Header.keyword? word with
  | none =>
    have hp := hplain (by simp [hk])
    simp only [hk, hp]
    rfl
  | some k =>
    cases k with
    | guard =>
      have hp := hplain (by simp [hk])
      simp only [hk, hp, requireArgument_bind]
      rfl
    | choice =>
      simp only [hk, requireArgument_bind]
      refine congrArg (fun e => if argument = "" then _ else e) ?_
      cases hsplit : splitAtSeparator items with
      | none =>
        rw [(splitAtSeparator_eq_none_iff items).1 hsplit]
        rfl
      | some around =>
        obtain ⟨l, r⟩ := around
        obtain ⟨s, rfl, hl⟩ := splitAtSeparator_eq_some hsplit
        have hblocks := isBlock_of_separatorsOf_eq_nil hl
        simp only [separatorsOf_append, hl, List.nil_append, separatorsOf_separator, firstSeparator?_eq]
        cases hr : separatorsOf r with
        | cons second others => rfl
        | nil =>
          rw [List.takeWhile_append_of_pos hblocks, List.dropWhile_append_of_pos hblocks]
          simp [plainBlocks_eq hl, plainBlocks_eq hr, Item.isBlock, Item.block?, bind, Except.bind, pure,
            Except.pure, Except.map]
    | separator => simp [hk]
    | inclusion =>
      simp only [hk, requireArgument_bind, withArgument]
      cases items <;> rfl
    | transform =>
      have hp := hplain (by simp [hk])
      simp only [hk, hp, requireArgument_bind, withArgument]
      cases Header.splitTransform argument <;> rfl

end Stencil.Template
