import Stencil.Proofs.Template.Printing

/-!
# What directives close to

A directive is judged when it closes, by its header and by the items of its body. Here the judgements that
succeed are listed, one rule for each keyword and one for remarks. Main statement: if a directive closes at
all, then it closes by one of these rules.
-/
namespace Stencil.Template

open Header (Keyword)

theorem plainBlocks_eq_ok_iff (items : List Item) (blocks : List Block) :
    plainBlocks items = .ok blocks ↔ items = itemsOf blocks := by
  constructor
  · intro h
    induction items generalizing blocks with
    | nil =>
      cases h
      rfl
    | cons i items ih =>
      cases i with
      | separator t => cases h
      | block b =>
        obtain ⟨bs, hbs, h⟩ := bind_eq_ok.1 h
        cases h
        exact congrArg (.block b :: ·) (ih bs hbs)
  · rintro rfl
    exact plainBlocks_itemsOf blocks

/-- The tokens of a template are read as a body, of which the template is made, and no closing marker is left
behind it. -/
theorem reads_whole_of_descendTokens {limit : Nat} {tokens : List Token} {blocks : List Block}
    (h : descendTokens limit tokens = .ok blocks) :
    ∃ rest, Reads limit 0 false tokens (itemsOf blocks) rest ∧ ∀ c ∈ rest.head?, c.kind ≠ .closing := by
  obtain ⟨⟨items, rest, hrest⟩, hdescend, h⟩ := bind_eq_ok.1 h
  have reading := reads_of_descend hdescend
  have hitems := (plainBlocks_eq_ok_iff _ _).1 (plainBlocks_eq reading.separatorsOf_eq_nil)
  cases rest with
  | nil =>
    obtain rfl : blocksOf items = blocks := Except.ok.inj h
    exact ⟨[], hitems ▸ reading, by simp⟩
  | cons c cs =>
    simp only at h
    split at h
    · cases h
    · rename_i hc
      obtain rfl : blocksOf items = blocks := Except.ok.inj h
      exact ⟨c :: cs, hitems ▸ reading, by simpa using hc⟩

theorem reads_of_descendTokens {limit : Nat} {tokens : List Token} {blocks : List Block}
    (h : descendTokens limit tokens = .ok blocks) :
    ∃ rest, Reads limit 0 false tokens (itemsOf blocks) rest := by
  obtain ⟨rest, reading, -⟩ := reads_whole_of_descendTokens h
  exact ⟨rest, reading⟩

/-- What a directive with header token `t` is, by its body. -/
inductive Closed (t : Token) (inChoice : Bool) : List Item → Item → Prop
  | separator (word : (Header.split t.value).1 = Keyword.separator.word)
      (bare : (Header.split t.value).2 = "") (inside : inChoice = true) :
      Closed t inChoice [] (.separator t)
  | choice {condition : String} (header : Header.split t.value = (Keyword.choice.word, condition))
      (nonempty : condition ≠ "") (e : Token) (children otherwise : List Block) :
      Closed t inChoice (itemsOf children ++ .separator e :: itemsOf otherwise)
        (.block (.choice condition children otherwise))
  | guard {condition : String} (header : Header.split t.value = (Keyword.guard.word, condition))
      (nonempty : condition ≠ "") (children : List Block) :
      Closed t inChoice (itemsOf children) (.block (.directive (.guard condition) children))
  | inclusion {path : String} (header : Header.split t.value = (Keyword.inclusion.word, path))
      (nonempty : path ≠ "") : Closed t inChoice [] (.block (.directive (.inclusion path) []))
  | transform {argument name expression : String}
      (header : Header.split t.value = (Keyword.transform.word, argument)) (nonempty : argument ≠ "")
      (parts : Header.splitTransform argument = some (name, expression)) (children : List Block) :
      Closed t inChoice (itemsOf children) (.block (.directive (.transform name expression) children))
  | group (free : (Header.split t.value).1 ∉ reservedWords) (children : List Block) :
      Closed t inChoice (itemsOf children) (.block (.directive (.group t.value) children))

theorem word_of_keyword? {word : String} {k : Keyword} (h : Header.keyword? word = some k) : word = k.word := by
  have hw := List.find?_some h
  exact (beq_iff_eq.1 hw).symm

theorem closed_of_close {t : Token} {items : List Item} {inChoice : Bool} {item : Item}
    (h : close t items inChoice = .ok item) : Closed t inChoice items item := by
  unfold close at h
  rcases hs : Header.split t.value with ⟨word, argument⟩
  simp only [hs] at h
  cases hk : Header.keyword? word with
  | none =>
    simp only [hk] at h
    obtain ⟨children, hchildren, hitem⟩ := bind_eq_ok.1 h
    obtain rfl := (plainBlocks_eq_ok_iff _ _).1 hchildren
    cases hitem
    exact .group (by rwa [hs, ← keyword?_eq_none_iff]) children
  | some k =>
    obtain rfl := word_of_keyword? hk
    simp only [hk] at h
    cases k with
    | separator =>
      simp only at h
      split at h
      · cases h
      · rename_i inside
        split at h
        · cases h
        · rename_i bare
          split at h
          · cases h
          · rename_i body
            cases h
            obtain rfl : items = [] := by simpa using body
            exact .separator (by rw [hs]) (by rw [hs]; simpa using bare) (by simpa using inside)
    | choice =>
      simp only [requireArgument_bind] at h
      split at h
      · cases h
      · rename_i nonempty
        split at h
        · cases h
        · rename_i first second hsplit
          obtain ⟨e, rfl, -⟩ := splitAtSeparator_eq_some hsplit
          split at h
          · cases h
          · obtain ⟨otherwise, hotherwise, hrest⟩ := bind_eq_ok.1 h
            obtain ⟨children, hchildren, hitem⟩ := bind_eq_ok.1 hrest
            obtain rfl := (plainBlocks_eq_ok_iff _ _).1 hotherwise
            obtain rfl := (plainBlocks_eq_ok_iff _ _).1 hchildren
            cases hitem
            exact .choice hs nonempty e children otherwise
    | guard =>
      simp only [requireArgument_bind] at h
      split at h
      · cases h
      · rename_i nonempty
        obtain ⟨children, hchildren, hitem⟩ := bind_eq_ok.1 h
        obtain rfl := (plainBlocks_eq_ok_iff _ _).1 hchildren
        cases hitem
        exact .guard hs nonempty children
    | inclusion =>
      simp only [requireArgument_bind] at h
      split at h
      · cases h
      · rename_i nonempty
        split at h
        · cases h
        · rename_i body
          cases h
          obtain rfl : items = [] := by simpa using body
          exact .inclusion hs nonempty
    | transform =>
      simp only [requireArgument_bind] at h
      split at h
      · cases h
      · rename_i nonempty
        split at h
        · cases h
        · rename_i name expression parts
          obtain ⟨children, hchildren, hitem⟩ := bind_eq_ok.1 h
          obtain rfl := (plainBlocks_eq_ok_iff _ _).1 hchildren
          cases hitem
          exact .transform hs nonempty parts children

/-- What a directive closes to is not a text. -/
theorem not_text_of_close {t : Token} {items : List Item} {inChoice : Bool} {content : String} :
    close t items inChoice ≠ .ok (.block (.text content)) := by
  intro h
  cases closed_of_close h

/-- A directive that has been judged has been closed. -/
theorem Reads.close_of_judge {limit depth : Nat} {t : Token} {ts rest : List Token} {body : List Item}
    (h : Reads limit depth (opensChoice t) ts body rest) {inChoice : Bool} {item : Item}
    (verdict : judge t body inChoice = .ok item) : close t body inChoice = .ok item := by
  rw [close_eq_judge t body inChoice fun hchoice => (hchoice ▸ h).separatorsOf_eq_nil]
  exact verdict

end Stencil.Template
