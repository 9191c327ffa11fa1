import Mathlib
import Stencil.Proofs.Template.Closing
import Stencil.Proofs.Template.Places

/-!
# Separators stay in their choices

An `else` is judged by the directive around it, when it closes and once more when that directive closes. Main
statement: while a text is read, separators lie in open choices only, so it does not matter what is done with a body
that should have none, nor what follows if a separator is not where it was found. A text is never refused for a stray
one, and the blocks that are read are of known kinds.
-/
namespace Stencil.Template

open Header (Keyword)

/-! ### Blocks of known kinds -/

/-- Texts, directives with a meaning, and choices, through the whole tree. -/
inductive Block.Known : Block → Prop
  | text (content : String) : Known (.text content)
  | directive {kind : Directive} {children : List Block} (meaning : ∀ name, kind ≠ .custom name)
      (body : ∀ b ∈ children, Known b) : Known (.directive kind children)
  | choice {condition : String} {children otherwise : List Block} (first : ∀ b ∈ children, Known b)
      (second : ∀ b ∈ otherwise, Known b) : Known (.choice condition children otherwise)

/-- What may be among the items of a body, by whether a choice is directly around it. -/
inductive Item.Fits (inChoice : Bool) : Item → Prop
  | block {b : Block} (known : b.Known) : Fits inChoice (.block b)
  | separator (t : Token) (inside : inChoice = true) : Fits inChoice (.separator t)

theorem Item.Fits.known {inChoice : Bool} {b : Block} (h : (Item.block b).Fits inChoice) : b.Known := by
  cases h with
  | block known => exact known

theorem separatorsOf_eq_nil_of_fits {items : List Item} (h : ∀ i ∈ items, i.Fits false) :
    separatorsOf items = [] := by
  rw [separatorsOf, List.filterMap_eq_nil_iff]
  intro i hi
  cases h i hi with
  | block known => rfl
  | separator t inside => cases inside

/-- What a directive closes to fits where the directive is. -/
theorem fits_of_close {t : Token} {items : List Item} {inChoice : Bool} {item : Item}
    (h : close t items inChoice = .ok item) (known : ∀ b, .block b ∈ items → b.Known) : item.Fits inChoice := by
  cases closed_of_close h with
  | separator word bare inside => exact .separator t inside
  | choice header nonempty e children otherwise =>
    have first : ∀ b ∈ children, b.Known := fun b hb => known b (by simp [itemsOf, hb])
    have second : ∀ b ∈ otherwise, b.Known := fun b hb => known b (by simp [itemsOf, hb])
    exact .block (.choice first second)
  | guard header nonempty children =>
    exact .block (.directive (by simp) fun b hb => known b (List.mem_map_of_mem hb))
  | inclusion header nonempty => exact .block (.directive (by simp) (by simp))
  | transform header nonempty parts children =>
    exact .block (.directive (by simp) fun b hb => known b (List.mem_map_of_mem hb))
  | group free children =>
    exact .block (.directive (by simp) fun b hb => known b (List.mem_map_of_mem hb))

/-! ### States of the reader -/

/-- Each item is one that may be where it is. -/
structure Progress.Tidy (p : Progress) : Prop where
  root : ∀ i ∈ p.root, i.Fits false
  stack : ∀ f ∈ p.stack, ∀ i ∈ f.items, i.Fits (opensChoice f.token)

namespace Progress

theorem tidy_start : start.Tidy := ⟨by simp [start], by simp [start]⟩

section

variable {p : Progress} (h : p.Tidy)

include h

theorem Tidy.add {i : Item} (hi : i.Fits (insideChoice p.stack)) : (p.add i).Tidy := by
  obtain ⟨root, stack⟩ := p
  cases stack with
  | nil => exact ⟨List.forall_mem_cons.2 ⟨hi, h.root⟩, h.stack⟩
  | cons f fs =>
    obtain ⟨hf, hfs⟩ := List.forall_mem_cons.1 h.stack
    have hi : i.Fits (opensChoice f.token) := by
      rw [← keywordOf?_eq_choice]
      exact hi
    exact ⟨h.root, List.forall_mem_cons.2 ⟨List.forall_mem_cons.2 ⟨hi, hf⟩, hfs⟩⟩

theorem Tidy.enter (t : Token) : (p.enter t).Tidy := ⟨h.root, List.forall_mem_cons.2 ⟨by simp, h.stack⟩⟩

theorem Tidy.leave {f : OpenDirective} {fs : List OpenDirective} (hstack : p.stack = f :: fs) :
    Tidy ⟨p.root, fs⟩ :=
  ⟨h.root, fun g hg => h.stack g (hstack ▸ List.mem_cons_of_mem f hg)⟩

theorem Tidy.body {f : OpenDirective} {fs : List OpenDirective} (hstack : p.stack = f :: fs) :
    ∀ i ∈ f.items.reverse, i.Fits (opensChoice f.token) :=
  fun i hi => h.stack f (hstack ▸ List.mem_cons_self) i (List.mem_reverse.1 hi)

/-- A token that is read leaves each item where it may be. -/
theorem Tidy.read {limit : Nat} {t : Token} {p' : Progress} (hread : read limit p t = .ok p') : p'.Tidy := by
  cases hkind : t.kind with
  | text =>
    rw [read_text hkind] at hread
    cases hread
    split
    · exact h
    · exact h.add (.block (.text _))
  | opening =>
    unfold Template.read at hread
    simp only [hkind] at hread
    split at hread
    · cases hread
    · split at hread <;> cases hread
      exact h.enter t
  | closing =>
    unfold Template.read at hread
    simp only [hkind] at hread
    split at hread
    · cases hread
    · rename_i f fs hstack
      obtain ⟨item, hclose, hread⟩ := bind_eq_ok.1 hread
      cases hread
      have known : ∀ b, .block b ∈ f.items.reverse → b.Known := fun b hb => (h.body hstack _ hb).known
      exact (h.leave hstack).add (fits_of_close hclose known)
  | finish =>
    unfold Template.read at hread
    simp only [hkind] at hread
    split at hread <;> cases hread
    exact h

theorem Tidy.foldlM_read {limit : Nat} {tokens : List Token} {p' : Progress}
    (hread : tokens.foldlM (Template.read limit) p = .ok p') : p'.Tidy := by
  induction tokens generalizing p with
  | nil =>
    cases hread
    exact h
  | cons t ts ih =>
    rw [List.foldlM_cons] at hread
    obtain ⟨next, hnext, hrest⟩ := bind_eq_ok.1 hread
    exact ih (h.read hnext) hrest

end

end Progress

/-! ### The branches of a choice -/

/-- The items before the separator of a choice with header token `t`, and those behind it. -/
def splitBranches (t : Token) (items : List Item) : Except Refusal (List Item × List Item) :=
  match splitAtSeparator items with
  | none => .error (.flawed .missingElse t)
  | some (first, second) =>
    match firstSeparator? second with
    | some extra => .error (.flawed .repeatedElse extra)
    | none => .ok (first, second)

/-- The same by the places of the separators. What stands at the second of them is looked at again, and if it is no
separator then the result is `failed`. -/
def branchesAt (failed : Except Refusal (List Item × List Item)) (t : Token) (items : List Item) :
    Except Refusal (List Item × List Item) :=
  match items.findIdxs (!·.isBlock) with
  | [] => .error (.flawed .missingElse t)
  | [place] => .ok (items.take place, items.drop (place + 1))
  | _ :: place :: _ =>
    match items[place]? with
    | some (.separator extra) => .error (.flawed .repeatedElse extra)
    | _ => failed

theorem findIdxs_eq_nil {items : List Item} (h : separatorsOf items = []) (start : Nat) :
    items.findIdxs (!·.isBlock) start = [] := by
  rw [List.findIdxs_eq_nil_iff]
  intro i hi
  simp [isBlock_of_separatorsOf_eq_nil h i hi]

/-- The places of separators, with one that has only blocks before it. -/
theorem findIdxs_append_separator {l : List Item} (h : separatorsOf l = []) (t : Token) (r : List Item) (start : Nat) :
    (l ++ .separator t :: r).findIdxs (!·.isBlock) start
      = (start + l.length) :: r.findIdxs (!·.isBlock) (start + l.length + 1) := by
  rw [List.findIdxs_append, findIdxs_eq_nil h, List.nil_append, List.findIdxs_cons]
  rfl

theorem exists_of_firstSeparator? {items : List Item} {t : Token} (h : firstSeparator? items = some t) :
    ∃ l r, items = l ++ .separator t :: r ∧ separatorsOf l = [] := by
  cases hsplit : splitAtSeparator items with
  | none =>
    rw [firstSeparator?_eq, (splitAtSeparator_eq_none_iff items).1 hsplit] at h
    cases h
  | some around =>
    obtain ⟨l, r⟩ := around
    obtain ⟨u, rfl, hl⟩ := splitAtSeparator_eq_some hsplit
    rw [firstSeparator?_eq, separatorsOf_append, hl] at h
    cases h
    exact ⟨l, r, rfl, hl⟩

/-- Both ways to split give the same, so a place where a separator was found has one. -/
theorem branchesAt_eq (failed : Except Refusal (List Item × List Item)) (t : Token) (items : List Item) :
    branchesAt failed t items = splitBranches t items := by
  unfold branchesAt splitBranches
  cases hsplit : splitAtSeparator items with
  | none => rw [findIdxs_eq_nil ((splitAtSeparator_eq_none_iff items).1 hsplit)]
  | some around =>
    obtain ⟨first, second⟩ := around
    obtain ⟨u, rfl, hfirst⟩ := splitAtSeparator_eq_some hsplit
    rw [findIdxs_append_separator hfirst, Nat.zero_add]
    cases hextra : firstSeparator? second with
    | none =>
      have hsecond : separatorsOf second = [] := by
        rwa [firstSeparator?_eq, List.head?_eq_none_iff] at hextra
      rw [findIdxs_eq_nil hsecond]
      simp [hextra]
    | some extra =>
      obtain ⟨l, r, rfl, hl⟩ := exists_of_firstSeparator? hextra
      have hplace : (first ++ .separator u :: (l ++ .separator extra :: r))[first.length + 1 + l.length]?
          = some (.separator extra) := by
        have hsplit : first ++ .separator u :: (l ++ .separator extra :: r)
            = (first ++ .separator u :: l) ++ .separator extra :: r := by simp
        have hlength : first.length + 1 + l.length = (first ++ .separator u :: l).length := by
          simp
          omega
        rw [hsplit, hlength, List.getElem?_append_right (Nat.le_refl _), Nat.sub_self]
        rfl
      rw [findIdxs_append_separator hl]
      simp only [hplace, hextra]

theorem separatorsOf_of_splitBranches {t : Token} {items : List Item} {branches : List Item × List Item}
    (h : splitBranches t items = .ok branches) :
    separatorsOf branches.1 = [] ∧ separatorsOf branches.2 = [] := by
  unfold splitBranches at h
  split at h
  · cases h
  · rename_i first second hsplit
    split at h
    · cases h
    · rename_i hnone
      cases h
      obtain ⟨-, -, hfirst⟩ := splitAtSeparator_eq_some hsplit
      exact ⟨hfirst, by rwa [firstSeparator?_eq, List.head?_eq_none_iff] at hnone⟩

/-! ### Other ways to take bodies apart -/

/-- What is done with a body that should have blocks only, and how one is split into branches. -/
structure BodyRules where
  plain : List Item → Except Refusal (List Block)
  branches : Token → List Item → Except Refusal (List Item × List Item)

namespace BodyRules

/-- Bodies without separators are taken as the reader takes them, and so are branches. -/
structure Agrees (rules : BodyRules) : Prop where
  plain {items : List Item} (h : separatorsOf items = []) : rules.plain items = plainBlocks items
  branches (t : Token) (items : List Item) : rules.branches t items = splitBranches t items

variable (rules : BodyRules)

/-- What a directive is by the rules. -/
def close (t : Token) (items : List Item) (insideChoice : Bool) : Except Refusal Item :=
  let (word, argument) := Header.split t.value
  match Header.keyword? word with
  | some .separator =>
    if !insideChoice then .error (.flawed .elseOutside t)
    else if argument ≠ "" then .error (.flawed .elseArgument t)
    else if !items.isEmpty then .error (.flawed .elseBody t)
    else .ok (.separator t)
  | some .choice => do
    requireArgument .choice argument t
    let (first, second) ← rules.branches t items
    let otherwise ← rules.plain second
    let children ← rules.plain first
    return .block (.choice argument children otherwise)
  | some .guard => do
    requireArgument .guard argument t
    let children ← rules.plain items
    return .block (.directive (.guard argument) children)
  | some .inclusion => do
    requireArgument .inclusion argument t
    if !items.isEmpty then .error (.flawed .includeBody t)
    else return .block (.directive (.inclusion argument) [])
  | some .transform => do
    requireArgument .transform argument t
    match Header.splitTransform argument with
    | none => .error (.flawed .badTransform t)
    | some (name, expression) =>
      let children ← rules.plain items
      return .block (.directive (.transform name expression) children)
  | none => do
    let children ← rules.plain items
    return .block (.directive (.group t.value) children)

/-- Reads one token by the rules. -/
def read (limit : Nat) (p : Progress) (t : Token) : Except Refusal Progress :=
  match t.kind, p.stack with
  | .closing, f :: fs => do
    let item ← rules.close f.token f.items.reverse (insideChoice fs)
    return Progress.add { p with stack := fs } item
  | _, _ => Template.read limit p t

/-- The blocks that a sequence of tokens spells by the rules. -/
def ofTokens (limit : Nat) (tokens : List Token) : Except Refusal (List Block) := do
  let p ← tokens.foldlM (rules.read limit) Progress.start
  rules.plain p.root.reverse

/-- The blocks of a template text by the rules. -/
def parse (limit : Int) (text : String) : Except Error (List Block) := do
  let limit ← checkLimit limit
  match Token.scan text with
  | .error m => .error (.malformed m)
  | .ok tokens => (rules.ofTokens limit tokens).mapError (Refusal.toError limit text)

/-- The rules of the reader. -/
def own : BodyRules := ⟨plainBlocks, splitBranches⟩

theorem close_own (t : Token) (items : List Item) (inside : Bool) :
    own.close t items inside = Template.close t items inside := by
  unfold close Template.close own
  rcases Header.split t.value with ⟨word, argument⟩
  cases hk : Header.keyword? word with
  | none => simp only [hk]
  | some k =>
    cases k with
    | choice =>
      simp only [hk, requireArgument_bind, splitBranches]
      refine congrArg (fun e => if argument = "" then _ else e) ?_
      cases splitAtSeparator items with
      | none => rfl
      | some around =>
        obtain ⟨first, second⟩ := around
        dsimp only
        cases firstSeparator? second <;> rfl
    | guard | separator | inclusion => simp only [hk]
    | transform => cases hs : Header.splitTransform argument <;> simp only [hk, hs]

variable {rules}

namespace Agrees

variable (h : rules.Agrees)

include h

/-- A body in which each item may be where it is. -/
theorem close_eq {t : Token} {items : List Item} (hitems : ∀ i ∈ items, i.Fits (opensChoice t)) (inside : Bool) :
    rules.close t items inside = Template.close t items inside := by
  rw [← close_own]
  unfold BodyRules.close
  rcases hs : Header.split t.value with ⟨word, argument⟩
  -- Only a choice may have a separator in its body, so elsewhere the rules have nothing to say.
  have hplain (hk : Header.keyword? word ≠ some .choice) : rules.plain items = own.plain items := by
    have hno : opensChoice t = false := by
      rw [ne_eq, keyword?_eq_choice_iff] at hk
      simpa [opensChoice, hs] using hk
    exact h.plain (separatorsOf_eq_nil_of_fits (hno ▸ hitems))
  cases hk : Header.keyword? word with
  | none => simp only [hk, hplain (by simp [hk])]
  | some k =>
    cases k with
    | separator | inclusion => simp only [hk]
    | guard | transform => simp only [hk, hplain (by simp [hk])]
    | choice =>
      simp only [hk, h.branches]
      cases hsplit : splitBranches t items with
      | error r => simp only [own, hsplit]; rfl
      | ok around =>
        obtain ⟨hfirst, hsecond⟩ := separatorsOf_of_splitBranches hsplit
        simp only [own, hsplit, ok_bind, h.plain hfirst, h.plain hsecond]

theorem read_eq {limit : Nat} {p : Progress} (hp : p.Tidy) (t : Token) :
    rules.read limit p t = Template.read limit p t := by
  unfold BodyRules.read
  split
  · rename_i f fs hkind hstack
    rw [h.close_eq (hp.body hstack)]
    unfold Template.read
    simp only [hkind, hstack]
  · rfl

theorem foldlM_read_eq {limit : Nat} {p : Progress} (hp : p.Tidy) (tokens : List Token) :
    tokens.foldlM (rules.read limit) p = tokens.foldlM (Template.read limit) p := by
  induction tokens generalizing p with
  | nil => rfl
  | cons t ts ih =>
    rw [List.foldlM_cons, List.foldlM_cons, h.read_eq hp]
    cases hread : Template.read limit p t with
    | error r => rfl
    | ok next => exact ih (hp.read hread)

theorem ofTokens_eq (limit : Nat) (tokens : List Token) :
    rules.ofTokens limit tokens = Template.ofTokens limit tokens := by
  unfold BodyRules.ofTokens Template.ofTokens
  rw [h.foldlM_read_eq Progress.tidy_start]
  cases hread : tokens.foldlM (Template.read limit) Progress.start with
  | error r => rfl
  | ok p =>
    have hroot := (Progress.tidy_start.foldlM_read hread).root
    exact h.plain (separatorsOf_eq_nil_of_fits fun i hi => hroot i (List.mem_reverse.1 hi))

theorem parse_eq (limit : Int) (text : String) : rules.parse limit text = Template.parse limit text := by
  unfold BodyRules.parse Template.parse parseWithin
  refine bind_congr fun limit => ?_
  cases Token.scan text with
  | error m => rfl
  | ok tokens => simp only [h.ofTokens_eq]

end Agrees

/-! ### Stray separators -/

/-- Separators are passed over where there should be none. -/
def lenient : BodyRules := ⟨fun items => .ok (blocksOf items), splitBranches⟩

theorem agrees_lenient : lenient.Agrees := ⟨fun h => (plainBlocks_eq h).symm, fun _ _ => rfl⟩

/-- Nothing is left that would call a separator stray. -/
theorem flaw_of_lenient_close {t t' : Token} {items : List Item} {inside : Bool} {flaw : Flaw}
    (h : lenient.close t items inside = .error (.flawed flaw t')) : flaw ≠ .strayElse := by
  rintro rfl
  unfold close at h
  rcases hs : Header.split t.value with ⟨word, argument⟩
  simp only [hs] at h
  cases hk : Header.keyword? word with
  | none =>
    simp only [hk] at h
    cases h
  | some k =>
    cases k with
    | separator =>
      simp only [hk] at h
      split at h
      · cases h
      · split at h
        · cases h
        · split at h <;> cases h
    | guard =>
      simp only [hk, requireArgument_bind] at h
      split at h <;> cases h
    | inclusion =>
      simp only [hk, requireArgument_bind] at h
      split at h
      · cases h
      · split at h <;> cases h
    | transform =>
      simp only [hk, requireArgument_bind] at h
      split at h
      · cases h
      · split at h <;> cases h
    | choice =>
      simp only [hk, requireArgument_bind] at h
      split at h
      · cases h
      · obtain hbranches | ⟨around, -, hrest⟩ := bind_eq_error.1 h
        · change splitBranches t items = _ at hbranches
          unfold splitBranches at hbranches
          split at hbranches
          · cases hbranches
          · split at hbranches <;> cases hbranches
        · cases hrest

theorem flaw_of_lenient_read {limit : Nat} {p : Progress} {t t' : Token} {flaw : Flaw}
    (h : lenient.read limit p t = .error (.flawed flaw t')) : flaw ≠ .strayElse := by
  unfold read at h
  split at h
  · obtain hclose | ⟨item, -, hadd⟩ := bind_eq_error.1 h
    · exact flaw_of_lenient_close hclose
    · cases hadd
  · rename_i hopen
    rintro rfl
    unfold Template.read at h
    split at h
    · cases h
    · split at h
      · cases h
      · split at h <;> cases h
    · rename_i hkind
      split at h
      · cases h
      · rename_i f fs hstack
        exact hopen f fs hkind hstack
    · split at h <;> cases h

theorem flaw_of_lenient_foldlM {limit : Nat} {tokens : List Token} {p : Progress} {t' : Token} {flaw : Flaw}
    (h : tokens.foldlM (lenient.read limit) p = .error (.flawed flaw t')) : flaw ≠ .strayElse := by
  induction tokens generalizing p with
  | nil => cases h
  | cons t ts ih =>
    rw [List.foldlM_cons] at h
    obtain hread | ⟨next, -, hrest⟩ := bind_eq_error.1 h
    · exact flaw_of_lenient_read hread
    · exact ih hrest

theorem flaw_of_lenient_parse {limit : Int} {text : String} {m : Malformed}
    (h : lenient.parse limit text = .error (.malformed m)) : m.flaw ≠ .strayElse := by
  obtain hlimit | ⟨n, -, h⟩ := bind_eq_error.1 h
  · unfold checkLimit at hlimit
    split at hlimit <;> cases hlimit
  · cases hscan : Token.scan text with
    | error m' =>
      simp only [hscan] at h
      cases h
      obtain ⟨before, header, -, -, rfl⟩ := Token.unterminated_of_scanFrom hscan
      simp
    | ok tokens =>
      simp only [hscan] at h
      cases htokens : lenient.ofTokens n tokens with
      | ok blocks =>
        rw [htokens] at h
        cases h
      | error r =>
        rw [htokens] at h
        cases r with
        | tooDeep t => cases h
        | flawed flaw t =>
          cases h
          obtain hread | ⟨p, -, hplain⟩ := bind_eq_error.1 htokens
          · exact flaw_of_lenient_foldlM hread
          · cases hplain

end BodyRules

/-! ### Texts -/

theorem known_of_parse {limit : Int} {text : String} {blocks : List Block} (h : parse limit text = .ok blocks) :
    ∀ b ∈ blocks, b.Known := by
  rw [parse_eq_parseWithin (one_le_of_parse h)] at h
  unfold parseWithin at h
  split at h
  · cases h
  · obtain ⟨p, hread, hplain⟩ := bind_eq_ok.1 (mapError_eq_ok.1 h)
    have hitems := (plainBlocks_eq_ok_iff _ _).1 hplain
    intro b hb
    have hmem : .block b ∈ p.root.reverse := by
      rw [hitems]
      exact List.mem_map_of_mem hb
    exact ((Progress.tidy_start.foldlM_read hread).root _ (List.mem_reverse.1 hmem)).known

/-- Separators stay in their choices. Behind any tokens of a text that can be read, none is at the top, and those in
an open directive are in one whose header chooses. What is done with a separator in a body that should have none, and
what follows if one is not where it was found, changes no result. So no text is refused for a stray one, and all
blocks that are read are of known kinds. -/
theorem separators_contained (limit : Int) (text : String) :
    (∀ before after : List Token, Token.scan text = .ok (before ++ after) → ∀ p : Progress,
      before.foldlM (read limit.toNat) Progress.start = .ok p →
      (∀ t, .separator t ∉ p.root) ∧
        ∀ f ∈ p.stack, ∀ t, .separator t ∈ f.items → (Header.split f.token.value).1 = "ifelse") ∧
    (∀ (plain : List Item → Except Refusal (List Block)) (failed : Except Refusal (List Item × List Item)),
      (∀ items, separatorsOf items = [] → plain items = plainBlocks items) →
      BodyRules.parse ⟨plain, branchesAt failed⟩ limit text = parse limit text) ∧
    (∀ m, parse limit text = .error (.malformed m) → m.flaw ≠ .strayElse) ∧
    ∀ blocks, parse limit text = .ok blocks → ∀ b ∈ blocks, b.Known := by
  refine ⟨?_, ?_, ?_, fun blocks => known_of_parse⟩
  · intro before after _ p hread
    have htidy : p.Tidy := Progress.tidy_start.foldlM_read hread
    constructor
    · intro t ht
      cases htidy.root _ ht with
      | separator _ inside => cases inside
    · intro f hf t ht
      cases htidy.stack f hf _ ht with
      | separator _ inside => exact beq_iff_eq.1 inside
  · intro plain failed hplain
    have hagrees : BodyRules.Agrees ⟨plain, branchesAt failed⟩ := ⟨fun h => hplain _ h, branchesAt_eq failed⟩
    exact hagrees.parse_eq limit text
  · intro m h
    rw [← BodyRules.agrees_lenient.parse_eq] at h
    exact BodyRules.flaw_of_lenient_parse h

/-- A choice with an empty first branch, and what has been read behind its separator. -/
theorem separators_contained_choice :
    let text := "!!% ifelse x\n!!% else\n%!!b%!!"
    let opening : Token := ⟨.opening, "ifelse x", ⟨0, 1, 1⟩⟩
    let separator : Token := ⟨.opening, "else", ⟨13, 2, 1⟩⟩
    let before : List Token := [opening, separator, ⟨.closing, "%!!", ⟨22, 3, 1⟩⟩]
    let after : List Token := [⟨.text, "b", ⟨25, 3, 4⟩⟩, ⟨.closing, "%!!", ⟨26, 3, 5⟩⟩, ⟨.finish, "", ⟨29, 3, 8⟩⟩]
    let p : Progress := ⟨[], [⟨opening, [.separator separator]⟩]⟩
    let blocks : List Block := [.choice "x" [] [.text "b"]]
    let plain (items : List Item) : Except Refusal (List Block) :=
      if separatorsOf items = [] then plainBlocks items else .ok []
    Token.scan text = .ok (before ++ after) ∧ before.foldlM (read 9) Progress.start = .ok p ∧
      (∀ f ∈ p.stack, ∀ t, .separator t ∈ f.items → (Header.split f.token.value).1 = "ifelse") ∧
      parse 9 text = .ok blocks ∧ (∀ b ∈ blocks, b.Known) ∧
      BodyRules.parse ⟨plain, branchesAt (.error (.tooDeep opening))⟩ 9 text = .ok blocks := by
  intro text opening separator before after p blocks plain
  have hscan : Token.scan text = .ok (before ++ after) := by
    simp only [text, before, after, opening, separator]
    cbv
  have hread : before.foldlM (read 9) Progress.start = .ok p := by
    simp only [before, p, opening, separator]
    cbv
  have hparse : parse 9 text = .ok blocks := by
    simp only [text, blocks]
    cbv
  have hplain : ∀ items, separatorsOf items = [] → plain items = plainBlocks items := fun items h => if_pos h
  obtain ⟨hstates, hrules, -, hknown⟩ := separators_contained 9 text
  refine ⟨hscan, hread, (hstates before after hscan p hread).2, hparse, hknown blocks hparse, ?_⟩
  rw [hrules plain _ hplain]
  exact hparse

end Stencil.Template
