import Mathlib
import Stencil.Proofs.Template.Closing
import Stencil.Proofs.Template.Seams

/-!
# What texts spell

Each part of a tree is well-formed for a reason of its own: the scanner ends a run at every marker and
begins no run where one has ended, headers are trimmed lines, and each keyword asks for its argument. Main
statement: whatever text is read, its blocks are well-formed, and they nest no deeper than the limit.
-/
namespace Stencil.Template

open Header (Keyword)
open Text (Place)
open Block (nesting nestings)

/-! ### Parts of headers -/

theorem strip_ofList_trim (cs : List Char) :
    Text.strip (String.ofList (Text.trim cs)) = String.ofList (Text.trim cs) := by
  rw [strip_eq_iff, String.toList_ofList, Text.trim_idem]

theorem isLine_ofList_trim {cs : List Char} (hline : '\n' ∉ cs)
    (hne : String.ofList (Text.trim cs) ≠ "") : IsLine (String.ofList (Text.trim cs)) where
  nonempty := hne
  trimmed := strip_ofList_trim cs
  oneLine := by
    rw [String.toList_ofList]
    exact fun hmem => hline ((Text.trim_infix cs).subset hmem)

theorem isLine_of_split {header word argument : String} (h : IsLine header)
    (hs : Header.split header = (word, argument)) (hne : argument ≠ "") : IsLine argument := by
  cases Header.split_eq_iff.1 hs with
  | whole => exact absurd rfl hne
  | @cut _ rest whole =>
    refine isLine_ofList_trim (fun hmem => h.oneLine ?_) hne
    rw [whole, String.toList_append]
    exact List.mem_append_right _ hmem

/-- The parts of a transform are a name and a line. -/
theorem isName_and_isLine_of_splitTransform {argument name expression : String} (h : IsLine argument)
    (hs : Header.splitTransform argument = some (name, expression)) : IsName name ∧ IsLine expression := by
  obtain ⟨rest, laid, rfl⟩ := Header.laidOut_of_splitTransform hs
  obtain ⟨blanks, -, whole⟩ := laid.whole
  have hline : '\n' ∉ rest := by
    intro hmem
    apply h.oneLine
    rw [whole]
    simp [hmem]
  exact ⟨laid.isName, isLine_ofList_trim hline (by simpa using laid.present)⟩

/-! ### Tokens of a text -/

namespace Token

theorem Unmarked.part {a b : List Char} (h : Unmarked b) (hab : a <:+: b) : Unmarked a where
  opening hmark := h.opening (hmark.trans hab)
  closing hmark := h.closing (hmark.trans hab)

/-- A run ends before the first marker. -/
theorem unmarked_run (cs : List Char) : Unmarked (run cs) := by
  induction cs with
  | nil => exact .nil
  | cons c cs ih =>
    rw [run]
    split
    · exact .nil
    · rename_i hm
      refine (unmarked_cons_iff c (run cs)).2 ⟨?_, ih⟩
      have hprefix : c :: run cs <+: c :: cs := by
        rw [List.prefix_cons_inj]
        exact ⟨afterRun cs, run_append cs⟩
      rw [atMarker_iff] at hm
      rw [← Bool.not_eq_true, atMarker_iff]
      exact fun hmark => hm (hmark.imp (·.trans hprefix) (·.trans hprefix))

/-- What a token is known to hold: a run has no marker, and a header is a line unless it is empty. -/
structure Clean (t : Token) : Prop where
  run (kind : t.kind = .text) : Unmarked t.value.toList
  header (kind : t.kind = .opening) (nonempty : t.value ≠ "") : IsLine t.value

theorem clean_of_kind {t : Token} (run : t.kind ≠ .text) (header : t.kind ≠ .opening) : t.Clean where
  run kind := absurd kind run
  header kind := absurd kind header

/-- Two tokens are not both texts. -/
def Apart (t u : Token) : Prop := t.kind = .text → u.kind ≠ .text

/-- Clean tokens, with no two texts side by side. -/
structure Tidy (ts : List Token) : Prop where
  clean : ∀ t ∈ ts, t.Clean
  apart : ts.IsChain Apart

theorem Tidy.suffix {ts us : List Token} (h : Tidy us) (hs : ts <:+ us) : Tidy ts where
  clean t ht := h.clean t (hs.subset ht)
  apart := h.apart.suffix hs

theorem Tidy.cons {t : Token} {ts : List Token} (h : Tidy ts) (clean : t.Clean)
    (apart : ∀ u ∈ ts.head?, t.Apart u) : Tidy (t :: ts) where
  clean := List.forall_mem_cons.2 ⟨clean, h.clean⟩
  apart := h.apart.cons apart

theorem tidy_of_scanFrom {p : Place} {cs : List Char} {ts : List Token} (h : scanFrom p cs = .ok ts) :
    Tidy ts := by
  fun_induction scanFrom p cs generalizing ts with
  | case1 p =>
    cases h
    exact ⟨by simpa using clean_of_kind (by simp) (by simp), .singleton _⟩
  | case2 => cases h
  | case3 p cs header rest hsome ih =>
    obtain ⟨others, hothers, rfl⟩ := followedBy_eq_ok h
    refine (ih hothers).cons ⟨by simp, fun _ hne => ?_⟩ (by simp [Apart])
    exact isLine_ofList_trim (lineFeed_not_mem_of_splitLine hsome) hne
  | case4 p cs ih =>
    obtain ⟨others, hothers, rfl⟩ := followedBy_eq_ok h
    exact (ih hothers).cons (clean_of_kind (by simp) (by simp)) (by simp [Apart])
  | case5 p c cs hopen hclose ih =>
    obtain ⟨others, hothers, rfl⟩ := followedBy_eq_ok h
    have hrun : run (c :: cs) = c :: run cs := by
      simp [run, atMarker_cons_eq_false hopen hclose]
    refine (ih hothers).cons ⟨fun _ => ?_, by simp⟩ fun u hu _ => ?_
    · rw [String.toList_ofList, ← hrun]
      exact unmarked_run (c :: cs)
    · exact kind_of_scanFrom (runEnds_afterRun cs) hothers u hu

end Token

/-! ### Bodies -/

/-- What an item is where directives may nest `room` deep. -/
def Item.Sound (room : Nat) : Item → Prop
  | block b => WellFormed [b] ∧ nesting b ≤ room
  | separator _ => 1 ≤ room

def Item.isText : Item → Bool
  | block b => startsWithText [b]
  | separator _ => false

/-- Sound items, with no two texts side by side. Separators keep texts apart. -/
structure SoundBody (room : Nat) (items : List Item) : Prop where
  each : ∀ i ∈ items, i.Sound room
  apart : items.IsChain fun i j => i.isText = true → j.isText = false

theorem SoundBody.part {room : Nat} {items others : List Item} (h : SoundBody room others)
    (hi : items <:+: others) : SoundBody room items where
  each i hmem := h.each i (hi.subset hmem)
  apart := h.apart.infix hi

theorem SoundBody.cons {room : Nat} {i : Item} {items : List Item} (h : SoundBody room items)
    (sound : i.Sound room) (apart : ∀ j ∈ items.head?, i.isText = true → j.isText = false) :
    SoundBody room (i :: items) where
  each := List.forall_mem_cons.2 ⟨sound, h.each⟩
  apart := h.apart.cons apart

theorem wellFormed_cons {b : Block} {bs : List Block} (hb : WellFormed [b]) (hbs : WellFormed bs)
    (apart : startsWithText [b] = true → startsWithText bs = false) : WellFormed (b :: bs) := by
  cases hb with
  | text isContent => exact .text isContent (apart rfl) hbs
  | directive header leaf body => exact .directive header leaf body hbs
  | choice line first second => exact .choice line first second hbs

/-- A sound body without separators is well-formed and fits in the room. -/
theorem SoundBody.wellFormed {room : Nat} {blocks : List Block} (h : SoundBody room (itemsOf blocks)) :
    WellFormed blocks ∧ nestings blocks ≤ room := by
  induction blocks with
  | nil => exact ⟨.nil, Nat.zero_le room⟩
  | cons b bs ih =>
    obtain ⟨hb, hroom⟩ := h.each (.block b) (by simp [itemsOf])
    obtain ⟨hbs, hrooms⟩ := ih (h.part (List.suffix_cons _ _).isInfix)
    refine ⟨wellFormed_cons hb hbs fun htext => ?_, ?_⟩
    · cases bs with
      | nil => rfl
      | cons c bs =>
        have hc := h.apart.rel_head? (y := .block c) rfl htext
        cases c <;> simp_all [Item.isText, startsWithText]
    · simp only [nestings]
      omega

/-- A directive around a sound body closes to a sound item, which needs one level more. -/
theorem sound_of_close {room : Nat} {t : Token} {items : List Item} {inChoice : Bool} {item : Item}
    (line : IsLine t.value) (body : SoundBody room items) (h : close t items inChoice = .ok item) :
    item.Sound (room + 1) := by
  cases closed_of_close h with
  | separator => exact Nat.le_add_left 1 room
  | choice header nonempty e children otherwise =>
    obtain ⟨hfirst, hroom⟩ := (body.part (List.prefix_append _ _).isInfix).wellFormed
    obtain ⟨hsecond, hroom'⟩ := (body.part
      ((List.suffix_cons _ _).trans (List.suffix_append _ _)).isInfix).wellFormed
    have hseparator : 1 ≤ room := body.each (.separator e) (by simp)
    refine ⟨.choice (isLine_of_split line header nonempty) hfirst hsecond .nil, ?_⟩
    simp only [nesting]
    omega
  | guard header nonempty children =>
    obtain ⟨hbody, hroom⟩ := body.wellFormed
    refine ⟨.directive (.guard (isLine_of_split line header nonempty)) (by simp) hbody .nil, ?_⟩
    simp only [nesting]
    omega
  | inclusion header nonempty =>
    refine ⟨.directive (.inclusion (isLine_of_split line header nonempty)) (fun _ _ => rfl) .nil .nil, ?_⟩
    simp only [nesting, nestings]
    omega
  | transform header nonempty parts children =>
    obtain ⟨hbody, hroom⟩ := body.wellFormed
    obtain ⟨hname, hexpression⟩ :=
      isName_and_isLine_of_splitTransform (isLine_of_split line header nonempty) parts
    refine ⟨.directive (.transform hname hexpression) (by simp) hbody .nil, ?_⟩
    simp only [nesting]
    omega
  | group free children =>
    obtain ⟨hbody, hroom⟩ := body.wellFormed
    refine ⟨.directive (.group line free) (by simp) hbody .nil, ?_⟩
    simp only [nesting]
    omega

theorem isText_of_close {t : Token} {items : List Item} {inChoice : Bool} {item : Item}
    (h : close t items inChoice = .ok item) : item.isText = false := by
  cases closed_of_close h <;> rfl

/-! ### Readings -/

/-- What a body is followed by is a part of what was to be read. -/
theorem Reads.suffix {limit depth : Nat} {inChoice : Bool} {ts rest : List Token} {items : List Item}
    (h : Reads limit depth inChoice ts items rest) : rest <:+ ts := by
  induction h with
  | nil => exact List.suffix_rfl
  | stop => exact List.suffix_rfl
  | blank _ _ _ ih => exact ih.trans (List.suffix_cons _ _)
  | text _ _ _ ih => exact ih.trans (List.suffix_cons _ _)
  | directive _ _ _ _ _ _ _ inner others =>
    exact others.trans ((List.suffix_cons _ _).trans (inner.trans (List.suffix_cons _ _)))

theorem Reads.kind_of_isText {limit depth : Nat} {inChoice : Bool} {ts rest : List Token}
    {items : List Item} (h : Reads limit depth inChoice ts items rest) {i : Item} (hi : i ∈ items.head?)
    (htext : i.isText = true) : ∃ t ∈ ts.head?, t.kind = .text := by
  cases h with
  | nil => cases hi
  | stop => cases hi
  | blank kind => exact ⟨_, rfl, kind⟩
  | text kind => exact ⟨_, rfl, kind⟩
  | directive _ _ _ inner _ verdict _ =>
    cases hi
    rw [isText_of_close (inner.close_of_judge verdict)] at htext
    cases htext

/-- Tidy tokens are read as a sound body, with the room that is left below the limit. -/
theorem Reads.soundBody {limit depth : Nat} {inChoice : Bool} {ts rest : List Token} {items : List Item}
    (h : Reads limit depth inChoice ts items rest) (tidy : Token.Tidy ts) :
    SoundBody (limit - depth) items := by
  induction h with
  | nil => exact ⟨by simp, .nil⟩
  | stop => exact ⟨by simp, .nil⟩
  | blank _ _ _ ih => exact ih (tidy.suffix (List.suffix_cons _ _))
  | @text _ _ t _ _ _ kind content others ih =>
    refine (ih (tidy.suffix (List.suffix_cons _ _))).cons ⟨.text ?_ rfl .nil, Nat.zero_le _⟩ fun j hj _ => ?_
    · have unmarked := (tidy.clean t List.mem_cons_self).run kind
      refine ⟨content, strip_ofList_trim _, unmarked.part ?_⟩
      rw [Text.strip, String.toList_ofList]
      exact Text.trim_infix _
    · -- A second text could only come from a second text token.
      rw [← Bool.not_eq_true]
      intro htext
      obtain ⟨u, hu, hkind⟩ := others.kind_of_isText hj htext
      exact tidy.apart.rel_head? hu kind hkind
  | @directive depth _ t c ts cs _ _ _ _ kind room header inner _ verdict _ ih ih' =>
    have hts : ts <:+ t :: ts := List.suffix_cons _ _
    have hcs : cs <:+ ts := (List.suffix_cons _ _).trans inner.suffix
    have hclose := inner.close_of_judge verdict
    refine (ih' (tidy.suffix (hcs.trans hts))).cons ?_ fun j _ htext => ?_
    · -- The body has one level less than what stands beside the directive.
      have hroom : limit - (depth + 1) + 1 = limit - depth := by omega
      rw [← hroom]
      exact sound_of_close ((tidy.clean t List.mem_cons_self).header kind header) (ih (tidy.suffix hts)) hclose
    · rw [isText_of_close hclose] at htext
      cases htext

/-- Whatever text is read, its blocks are well-formed and nest at most as deep as the limit. -/
theorem wellFormed_of_parse {limit : Int} {text : String} {blocks : List Block}
    (h : parse limit text = .ok blocks) : WellFormed blocks ∧ nestings blocks ≤ limit := by
  have hlimit := one_le_of_parse h
  rw [parse_eq_parseWithin hlimit, parseWithin_eq_descendText, descendText] at h
  split at h
  · cases h
  · rename_i tokens hscan
    obtain ⟨rest, reading⟩ := reads_of_descendTokens (mapError_eq_ok.1 h)
    obtain ⟨hwell, hnest⟩ := (reading.soundBody (Token.tidy_of_scanFrom hscan)).wellFormed
    exact ⟨hwell, by omega⟩

/-- An empty branch, a header that only looks like a keyword, and blanks around a text. At its limit the
template has just enough room for its separator. -/
theorem wellFormed_branches :
    let text := "!!% ifelse x\n!!% else\n%!!%!!!!% iffy \n%!! b\n"
    let blocks : List Block := [.choice "x" [] [], .directive (.group "iffy") [], .text "b"]
    parse 2 text = .ok blocks ∧ WellFormed blocks ∧ nestings blocks ≤ (2 : Int) := by
  intro text blocks
  have h : parse 2 text = .ok blocks := by cbv
  exact ⟨h, wellFormed_of_parse h⟩

end Stencil.Template
