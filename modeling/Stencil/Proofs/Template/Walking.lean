import Mathlib
import Stencil.Proofs.Template.Spelled

/-!
# Walking a template in the order of its text

A directive becomes a block when it closes, behind all that is in it, and separators leave no block. A walk
that visits each block before the blocks in it finds them in the order of the text again. Main statement:
the texts and directives of a walk are, one by one, the texts and openings of the scanner.
-/
namespace Stencil.Template

open Header (Keyword)

/-! ### Walks -/

/-- A block without the blocks in it. -/
inductive Node where
  | text (content : String)
  | directive (kind : Directive)
  | choice (condition : String)
  | foreign (value : Foreign)
  deriving DecidableEq, Repr

def Node.content? : Node → Option String
  | text content => some content
  | directive _ | choice _ | foreign _ => none

def Node.isHeading : Node → Bool
  | directive _ | choice _ => true
  | text _ | foreign _ => false

def Node.isChoice : Node → Bool
  | choice _ => true
  | text _ | directive _ | foreign _ => false

namespace Block

mutual
/-- A block and then the blocks in it, those of the first branch of a choice before those of the second. -/
def walk : Block → List Node
  | text content => [.text content]
  | directive kind children => .directive kind :: walkAll children
  | choice condition children otherwise => .choice condition :: (walkAll children ++ walkAll otherwise)
  | foreign value => [.foreign value]

def walkAll : List Block → List Node
  | [] => []
  | b :: bs => walk b ++ walkAll bs
end

theorem walkAll_append (a b : List Block) : walkAll (a ++ b) = walkAll a ++ walkAll b := by
  induction a with
  | nil => rfl
  | cons x xs ih => rw [List.cons_append, walkAll, walkAll, ih, List.append_assoc]

mutual
theorem length_walk (b : Block) : (walk b).length = weight b := by
  cases b with
  | text content => rfl
  | foreign value => rfl
  | directive kind children => rw [walk, weight, List.length_cons, length_walkAll children]
  | choice condition children otherwise =>
    rw [walk, weight, List.length_cons, List.length_append, length_walkAll children,
      length_walkAll otherwise]

theorem length_walkAll (bs : List Block) : (walkAll bs).length = weights bs := by
  cases bs with
  | nil => rfl
  | cons b bs => rw [walkAll, weights, List.length_append, length_walk b, length_walkAll bs]
end

theorem countFrom_eq (pending : List Block) (total : Nat) : countFrom pending total = weights pending + total := by
  fun_induction countFrom pending total with
  | case1 total => simp [weights]
  | case2 total b rest ih =>
    rw [ih, weights_append, weights_reverse, weights, weight_eq b]
    omega

/-- Counting blocks from a list of those still to visit counts the steps of a walk. -/
theorem count_eq_length_walkAll (blocks : List Block) : count blocks = (walkAll blocks).length := by
  rw [count, countFrom_eq, weights_reverse, length_walkAll, Nat.add_zero]

end Block

open Block (walk walkAll)

/-! ### Tokens that become blocks -/

/-- The directive that a header spells. -/
inductive Spells (header : String) : Node → Prop
  | guard {condition : String} (split : Header.split header = ("if", condition)) :
      Spells header (.directive (.guard condition))
  | choice {condition : String} (split : Header.split header = ("ifelse", condition)) :
      Spells header (.choice condition)
  | inclusion {path : String} (split : Header.split header = ("include", path)) :
      Spells header (.directive (.inclusion path))
  | transform {argument name expression : String} (split : Header.split header = ("transform", argument))
      (parts : Header.splitTransform argument = some (name, expression)) :
      Spells header (.directive (.transform name expression))
  | group (free : (Header.split header).1 ∉ reservedWords) : Spells header (.directive (.group header))

namespace Token

/-- A run of text that is not blank. -/
def isContent (t : Token) : Bool := t.kind == .text && Text.strip t.value != ""

/-- An opening that does not separate branches. -/
def isHeading (t : Token) : Bool := t.kind == .opening && (Header.split t.value).1 != "else"

def isElse (t : Token) : Bool := t.kind == .opening && (Header.split t.value).1 == "else"

def becomesBlock (t : Token) : Bool := t.isContent || t.isHeading

inductive Becomes (t : Token) : Node → Prop
  | content (kind : t.isContent = true) : t.Becomes (.text (Text.strip t.value))
  | heading {node : Node} (kind : t.isHeading = true) (spells : Spells t.value node) : t.Becomes node

section

variable {t : Token}

theorem becomesBlock_of_text (kind : t.kind = .text) :
    t.becomesBlock = (Text.strip t.value != "") ∧ t.isElse = false := by
  simp [becomesBlock, isContent, isHeading, isElse, kind]

theorem becomesBlock_of_opening (kind : t.kind = .opening) :
    t.becomesBlock = t.isHeading ∧ t.isElse = !t.isHeading := by
  simp [becomesBlock, isContent, isHeading, isElse, kind, bne]

theorem becomesBlock_of_other (kind : t.kind = .closing ∨ t.kind = .finish) :
    t.becomesBlock = false ∧ t.isElse = false := by
  obtain kind | kind := kind <;> simp [becomesBlock, isContent, isHeading, isElse, kind]

end

end Token

theorem Spells.isHeading {header : String} {node : Node} (h : Spells header node) : node.isHeading = true := by
  cases h <;> rfl

@[simp] theorem blocksOf_itemsOf (blocks : List Block) : blocksOf (itemsOf blocks) = blocks := by
  induction blocks with
  | nil => rfl
  | cons b blocks ih => exact congrArg (b :: ·) ih

theorem blocksOf_append (a b : List Item) : blocksOf (a ++ b) = blocksOf a ++ blocksOf b :=
  List.filterMap_append

/-- A directive that closes to a block is walked before all that is in its body. Separators in the body are
used up by choices, one by each. -/
theorem Closed.walk_block {t : Token} {inChoice : Bool} {body : List Item} {b : Block}
    (h : Closed t inChoice body (.block b)) :
    ∃ node, walk b = node :: walkAll (blocksOf body) ∧ Spells t.value node ∧
      (Header.split t.value).1 ≠ "else" ∧ (separatorsOf body).length = if node.isChoice then 1 else 0 := by
  cases h with
  | @choice condition header nonempty e children otherwise =>
    refine ⟨.choice condition, ?_, .choice header, by simp [header, Keyword.word], ?_⟩
    · rw [blocksOf_append, blocksOf_separator, blocksOf_itemsOf, blocksOf_itemsOf, Block.walkAll_append]
      rfl
    · simp [separatorsOf_append, Node.isChoice]
  | @guard condition header nonempty children =>
    refine ⟨.directive (.guard condition), ?_, .guard header, by simp [header, Keyword.word], ?_⟩
    · rw [blocksOf_itemsOf]
      rfl
    · simp [Node.isChoice]
  | @inclusion path header nonempty =>
    exact ⟨.directive (.inclusion path), rfl, .inclusion header, by simp [header, Keyword.word], rfl⟩
  | @transform argument name expression header nonempty parts children =>
    refine ⟨.directive (.transform name expression), ?_, .transform header parts,
      by simp [header, Keyword.word], ?_⟩
    · rw [blocksOf_itemsOf]
      rfl
    · simp [Node.isChoice]
  | group free children =>
    refine ⟨.directive (.group t.value), ?_, .group free, ?_, ?_⟩
    · rw [blocksOf_itemsOf]
      rfl
    · rintro helse
      simp [helse, reservedWords] at free
    · simp [Node.isChoice]

/-! ### From close order to text order -/

/-- The walk of what has been read has a node for each token that becomes a block, and each separator is used
up by a choice or is still there. -/
structure Keeps (ts : List Token) (items : List Item) : Prop where
  nodes : List.Forall₂ Token.Becomes (ts.filter Token.becomesBlock) (walkAll (blocksOf items))
  separators : ts.countP Token.isElse
    = (walkAll (blocksOf items)).countP Node.isChoice + (separatorsOf items).length

theorem Keeps.nil : Keeps [] [] := ⟨.nil, rfl⟩

theorem Keeps.skip {t : Token} {ts : List Token} {items : List Item} (h : Keeps ts items)
    (block : t.becomesBlock = false) (notElse : t.isElse = false) : Keeps (t :: ts) items where
  nodes := by
    rw [List.filter_cons_of_neg (by simp [block])]
    exact h.nodes
  separators := by
    rw [List.countP_cons_of_neg (by simp [notElse])]
    exact h.separators

theorem Keeps.text {t : Token} {ts : List Token} {items : List Item} (h : Keeps ts items)
    (kind : t.kind = .text) (content : Text.strip t.value ≠ "") :
    Keeps (t :: ts) (.block (.text (Text.strip t.value)) :: items) where
  nodes := by
    rw [List.filter_cons_of_pos (by simp [(Token.becomesBlock_of_text kind).1, content])]
    exact .cons (.content (by simp [Token.isContent, kind, content])) h.nodes
  separators := by
    rw [List.countP_cons_of_neg (by simp [(Token.becomesBlock_of_text kind).2]), h.separators]
    simp [walkAll, walk, Node.isChoice]

/-- A directive keeps what its body keeps, and is walked before it. -/
theorem Keeps.directive {t c : Token} {ts us : List Token} {body items : List Item} {item : Item}
    (inner : Keeps ts body) (others : Keeps us items) (kind : t.kind = .opening) (close : c.kind = .closing)
    {inChoice : Bool} (h : Closed t inChoice body item) : Keeps (t :: (ts ++ c :: us)) (item :: items) := by
  have hopening := Token.becomesBlock_of_opening kind
  have hothers := others.skip (Token.becomesBlock_of_other (.inl close)).1
    (Token.becomesBlock_of_other (.inl close)).2
  have hnodes : List.Forall₂ Token.Becomes ((ts ++ c :: us).filter Token.becomesBlock)
      (walkAll (blocksOf body) ++ walkAll (blocksOf items)) := by
    rw [List.filter_append]
    exact List.rel_append inner.nodes hothers.nodes
  have hcount := inner.separators
  cases item with
  | separator s =>
    cases h with
    | separator word =>
      have hheading : t.isHeading = false := by simp [Token.isHeading, word, Keyword.word]
      rw [hheading] at hopening
      constructor
      · rw [List.filter_cons_of_neg (by simp [hopening])]
        exact hnodes
      · rw [List.countP_cons_of_pos (by simp [hopening]), List.countP_append, hcount, hothers.separators]
        rw [separatorsOf_separator, blocksOf_separator, List.length_cons]
        change 0 + 0 + _ + 1 = _
        omega
  | block b =>
    obtain ⟨node, hwalk, spells, word, hlength⟩ := h.walk_block
    have hheading : t.isHeading = true := by simp [Token.isHeading, kind, word]
    rw [hheading] at hopening
    constructor
    · rw [List.filter_cons_of_pos hopening.1, blocksOf_block, walkAll, hwalk]
      exact .cons (.heading hheading spells) hnodes
    · rw [List.countP_cons_of_neg (by simp [hopening]), List.countP_append, hcount, hothers.separators, hlength,
        blocksOf_block, walkAll, hwalk, separatorsOf_block, List.cons_append, List.countP_cons,
        List.countP_append]
      omega

theorem Reads.keeps {limit depth : Nat} {inChoice : Bool} {ts rest : List Token} {items : List Item}
    (h : Reads limit depth inChoice ts items rest) : ∃ body, ts = body ++ rest ∧ Keeps body items := by
  induction h with
  | nil => exact ⟨[], rfl, .nil⟩
  | stop => exact ⟨[], rfl, .nil⟩
  | @blank _ _ t _ _ _ kind content _ ih =>
    obtain ⟨body, rfl, hbody⟩ := ih
    obtain ⟨hblock, helse⟩ := Token.becomesBlock_of_text kind
    exact ⟨t :: body, rfl, hbody.skip (by simp [hblock, content]) helse⟩
  | @text _ _ t _ _ _ kind content _ ih =>
    obtain ⟨body, rfl, hbody⟩ := ih
    exact ⟨t :: body, rfl, hbody.text kind content⟩
  | @directive _ _ t c _ _ _ _ _ _ kind _ _ inner close verdict _ ih ih' =>
    obtain ⟨body, rfl, hbody⟩ := ih
    obtain ⟨others, rfl, hothers⟩ := ih'
    have hclosed := closed_of_close (inner.close_of_judge verdict)
    exact ⟨t :: (body ++ c :: others), by simp, hbody.directive hothers kind close hclosed⟩

/-! ### Texts, directives and their number -/

theorem Token.isHeading_of_isContent {t : Token} (h : t.isContent = true) : t.isHeading = false := by
  simp only [isContent, Bool.and_eq_true, beq_iff_eq] at h
  simp [isHeading, h.1]

theorem Token.isContent_of_isHeading {t : Token} (h : t.isHeading = true) : t.isContent = false := by
  simp only [isHeading, Bool.and_eq_true, beq_iff_eq] at h
  simp [isContent, h.1]

theorem contents_of_becomes {ts : List Token} {nodes : List Node} (h : List.Forall₂ Token.Becomes ts nodes) :
    nodes.filterMap Node.content? = (ts.filter Token.isContent).map fun t => Text.strip t.value := by
  induction h with
  | nil => rfl
  | @cons t node _ _ hnode _ ih =>
    cases hnode with
    | content kind => simp [kind, ih, Node.content?]
    | heading kind spells =>
      have hcontent : node.content? = none := by cases spells <;> rfl
      simp [Token.isContent_of_isHeading kind, hcontent, ih]

theorem headings_of_becomes {ts : List Token} {nodes : List Node} (h : List.Forall₂ Token.Becomes ts nodes) :
    List.Forall₂ (fun t node => Spells t.value node) (ts.filter Token.isHeading)
      (nodes.filter Node.isHeading) := by
  induction h with
  | nil => exact .nil
  | cons hnode _ ih =>
    cases hnode with
    | content kind =>
      simpa [Token.isHeading_of_isContent kind, Node.isHeading] using ih
    | heading kind spells =>
      rw [List.filter_cons_of_pos kind, List.filter_cons_of_pos spells.isHeading]
      exact .cons spells ih

theorem filter_becomesBlock (p : Token → Bool) (hp : ∀ t, p t = true → t.becomesBlock = true) (ts : List Token) :
    (ts.filter Token.becomesBlock).filter p = ts.filter p := by
  rw [List.filter_filter]
  refine List.filter_congr fun t _ => ?_
  cases ht : p t with
  | true => simp [hp t ht]
  | false => rfl

theorem countP_becomesBlock (ts : List Token) :
    ts.countP Token.becomesBlock + ts.countP Token.isElse
      = ts.countP Token.isContent + ts.countP fun t => t.kind == .opening := by
  induction ts with
  | nil => rfl
  | cons t ts ih =>
    simp only [List.countP_cons]
    cases hk : t.kind with
    | text =>
      simp [Token.becomesBlock, Token.isContent, Token.isHeading, Token.isElse, hk]
      omega
    | opening =>
      cases hword : ((Header.split t.value).1 == "else") <;>
        simp [Token.becomesBlock, Token.isContent, Token.isHeading, Token.isElse, hk, bne, hword] <;> omega
    | closing => simpa [Token.becomesBlock, Token.isContent, Token.isHeading, Token.isElse, hk] using ih
    | finish => simpa [Token.becomesBlock, Token.isContent, Token.isHeading, Token.isElse, hk] using ih

/-- A walk over what has been read finds the texts that are not blank, trimmed, and the directives that their
openings spell, in the order of the text. As many blocks are counted as there are such texts and openings,
less one opening for each choice. -/
theorem walk_of_parse {limit : Int} {text : String} {blocks : List Block}
    (h : parse limit text = .ok blocks) :
    ∃ tokens, Token.scan text = .ok tokens ∧
      List.Forall₂ Token.Becomes (tokens.filter Token.becomesBlock) (walkAll blocks) ∧
      (walkAll blocks).filterMap Node.content?
        = ((tokens.filter Token.isContent).map fun t => Text.strip t.value) ∧
      List.Forall₂ (fun t node => Spells t.value node) (tokens.filter Token.isHeading)
        ((walkAll blocks).filter Node.isHeading) ∧
      Block.count blocks + (walkAll blocks).countP Node.isChoice
        = tokens.countP Token.isContent + tokens.countP fun t => t.kind == .opening := by
  rw [parse_eq_parseWithin (one_le_of_parse h), parseWithin_eq_descendText, descendText] at h
  split at h
  · cases h
  rename_i tokens hscan
  obtain ⟨rest, reading, hrest⟩ := reads_whole_of_descendTokens (mapError_eq_ok.1 h)
  obtain ⟨hended, e, others, rfl, hstop⟩ := reading.stops (ended_of_scanFrom hscan)
  have hfinish : e.kind = .finish := hstop.resolve_left (hrest e rfl)
  obtain rfl := hended.eq_nil hfinish
  obtain ⟨body, rfl, hnodes, hseparators⟩ := reading.keeps
  -- The end becomes nothing.
  obtain ⟨hblock, helse⟩ := Token.becomesBlock_of_other (.inr hfinish)
  have hwalk : List.Forall₂ Token.Becomes ((body ++ [e]).filter Token.becomesBlock) (walkAll blocks) := by
    simpa [List.filter_append, hblock] using hnodes
  have hchoices : (body ++ [e]).countP Token.isElse = (walkAll blocks).countP Node.isChoice := by
    simpa [List.countP_append, helse] using hseparators
  refine ⟨body ++ [e], hscan, hwalk, ?_, ?_, ?_⟩
  · rw [contents_of_becomes hwalk, filter_becomesBlock]
    intro t ht
    simp [Token.becomesBlock, ht]
  · have hheadings := headings_of_becomes hwalk
    rwa [filter_becomesBlock] at hheadings
    intro t ht
    simp [Token.becomesBlock, ht]
  · have hlength := hwalk.length_eq
    rw [← List.countP_eq_length_filter] at hlength
    rw [Block.count_eq_length_walkAll, ← hlength, ← hchoices, countP_becomesBlock]

/-- An empty branch, a blank text in it, and a directive behind the separator. -/
theorem walk_branches :
    let text := "a!!% ifelse x\n \n!!% else\n%!! b !!% if y\nc%!! %!!"
    let blocks : List Block := [.text "a", .choice "x" [] [.text "b", .directive (.guard "y") [.text "c"]]]
    parse 2 text = .ok blocks ∧ ∃ tokens, Token.scan text = .ok tokens ∧
      List.Forall₂ Token.Becomes (tokens.filter Token.becomesBlock)
        [.text "a", .choice "x", .text "b", .directive (.guard "y"), .text "c"] := by
  intro text blocks
  have h : parse 2 text = .ok blocks := by cbv
  obtain ⟨tokens, hscan, hwalk, -⟩ := walk_of_parse h
  exact ⟨h, tokens, hscan, hwalk⟩

end Stencil.Template
