import Mathlib
import Stencil.Proofs.Path

/-!
# Normalized paths

A path is normalized by its components alone, and resolved against a directory. Both take double dots away,
but a normalized path keeps those at its head, and its slashes. Main statement: two paths have one
normalized text if and only if they resolve to one place and begin alike.
-/
namespace Stencil.Path

/-! ### Texts and components -/

theorem pieces_of_no_slash {cs : List Char} (h : '/' ∉ cs) : pieces cs = [cs] := by
  induction cs with
  | nil => rfl
  | cons c cs ih =>
    obtain ⟨hc, hcs⟩ := List.ne_and_not_mem_of_not_mem_cons h
    rw [pieces, if_neg hc.symm, ih hcs]

theorem pieces_append_slash {piece : List Char} (h : '/' ∉ piece) (cs : List Char) :
    pieces (piece ++ '/' :: cs) = piece :: pieces cs := by
  induction piece with
  | nil => simp [pieces]
  | cons c piece ih =>
    obtain ⟨hc, hpiece⟩ := List.ne_and_not_mem_of_not_mem_cons h
    rw [List.cons_append, pieces, if_neg hc.symm, ih hpiece]

theorem no_slash_of_mem_pieces {cs piece : List Char} (h : piece ∈ pieces cs) : '/' ∉ piece := by
  induction cs generalizing piece with
  | nil => simp_all [pieces]
  | cons c cs ih =>
    rw [pieces] at h
    split at h
    · obtain rfl | h := List.mem_cons.1 h
      · exact List.not_mem_nil
      · exact ih h
    · rename_i hc
      cases hps : pieces cs with
      | nil =>
        obtain rfl : piece = [c] := by simpa [hps] using h
        simpa using Ne.symm hc
      | cons p ps =>
        rw [hps] at h
        obtain rfl | h := List.mem_cons.1 h
        · exact List.not_mem_cons_of_ne_of_not_mem (Ne.symm hc) (ih (by simp [hps]))
        · exact ih (by simp [hps, h])

/-- A name, or a double dot. -/
structure IsComponent (part : String) : Prop where
  nonempty : part ≠ ""
  ne_dot : part ≠ "."
  no_slash : '/' ∉ part.toList

theorem isComponent_of_mem {cs : List Char} {part : String} (h : part ∈ components cs) :
    IsComponent part := by
  obtain ⟨hpart, hkept⟩ := List.mem_filter.1 h
  obtain ⟨piece, hpiece, rfl⟩ := List.mem_map.1 hpart
  have hkept : String.ofList piece ≠ "" ∧ String.ofList piece ≠ "." := by simpa using hkept
  exact ⟨hkept.1, hkept.2, by simpa using no_slash_of_mem_pieces hpiece⟩

theorem components_slashes (n : Nat) (cs : List Char) :
    components (List.replicate n '/' ++ cs) = components cs := by
  induction n with
  | zero => rfl
  | succ n ih =>
    rw [← ih]
    simp [components, List.replicate_succ, pieces]

theorem pieces_intercalate {part : String} {parts : List String}
    (h : ∀ p ∈ part :: parts, IsComponent p) :
    pieces (String.intercalate "/" (part :: parts)).toList = (part :: parts).map String.toList := by
  induction parts generalizing part with
  | nil => simp [pieces_of_no_slash (h part (by simp)).no_slash]
  | cons next parts ih =>
    have htext : (String.intercalate "/" (part :: next :: parts)).toList
        = part.toList ++ '/' :: (String.intercalate "/" (next :: parts)).toList := by
      simp
    rw [htext, pieces_append_slash (h part (by simp)).no_slash, ih fun p hp => h p (by simp [hp])]
    simp

theorem components_intercalate {parts : List String} (h : ∀ part ∈ parts, IsComponent part) :
    components (String.intercalate "/" parts).toList = parts := by
  cases parts with
  | nil => rfl
  | cons part parts =>
    have hpieces : ((part :: parts).map String.toList).map String.ofList = part :: parts := by simp
    rw [components, pieces_intercalate h, hpieces, List.filter_eq_self]
    intro p hp
    simp [(h p hp).nonempty, (h p hp).ne_dot]

theorem leadingSlashes_append {n : Nat} (hn : n ≤ 2) {cs : List Char} (h : cs.head? ≠ some '/') :
    leadingSlashes (List.replicate n '/' ++ cs) = n := by
  cases cs with
  | nil => interval_cases n <;> rfl
  | cons c cs =>
    have hc : c ≠ '/' := by simpa using h
    interval_cases n <;> simp [leadingSlashes, hc]

/-- A path that some text spells. -/
structure Spellable (p : Path) : Prop where
  slashes_le : p.slashes ≤ 2
  components : ∀ part ∈ p.parts, IsComponent part

theorem spellable_ofString (s : String) : (ofString s).Spellable where
  slashes_le := by
    change leadingSlashes s.toList ≤ 2
    unfold leadingSlashes
    split <;> omega
  components _ h := isComponent_of_mem h

theorem head_intercalate {parts : List String} (h : ∀ part ∈ parts, IsComponent part) :
    (String.intercalate "/" parts).toList.head? ≠ some '/' := by
  cases parts with
  | nil => simp
  | cons part parts =>
    have hpart := h part (by simp)
    obtain ⟨c, cs, hcs⟩ : ∃ c cs, part.toList = c :: cs :=
      List.exists_cons_of_ne_nil (by simpa using hpart.nonempty)
    have hc : c ≠ '/' := by
      rintro rfl
      exact hpart.no_slash (by simp [hcs])
    cases parts <;> simp [hcs, hc]

/-- The text of a path reads as the path. -/
theorem ofString_text {p : Path} (h : p.Spellable) : ofString p.text = p := by
  obtain ⟨slashes, parts⟩ := p
  by_cases hempty : slashes = 0 ∧ parts = []
  · obtain ⟨rfl, rfl⟩ := hempty
    decide
  · have htext : (text ⟨slashes, parts⟩).toList
        = List.replicate slashes '/' ++ (String.intercalate "/" parts).toList := by
      unfold text
      split
      · rename_i hslashes hparts
        exact absurd ⟨hslashes, hparts⟩ hempty
      · simp
    rw [ofString, htext, leadingSlashes_append h.slashes_le (head_intercalate h.components),
      components_slashes, components_intercalate h.components]

theorem eq_of_text_eq {p q : Path} (hp : p.Spellable) (hq : q.Spellable) (h : p.text = q.text) : p = q := by
  rw [← ofString_text hp, h, ofString_text hq]

/-! ### Double dots -/

theorem climb_append (done parts rest : List String) :
    climb done (parts ++ rest) = climb (climb done parts).reverse rest := by
  fun_induction climb done parts with
  | case1 done => simp
  | case2 done parts ih => simpa [climb] using ih
  | case3 done part parts hpart ih => simpa [climb] using ih

theorem climb_of_no_dots {done names : List String} (h : ".." ∉ names) :
    climb done names = done.reverse ++ names := by
  fun_induction climb done names with
  | case1 done => simp
  | case2 done rest ih => simp at h
  | case3 done part rest hpart ih => simp_all

theorem climb_replicate (done : List String) (n : Nat) (rest : List String) :
    climb done (List.replicate n ".." ++ rest) = climb (done.drop n) rest := by
  induction n generalizing done with
  | zero => rfl
  | succ n ih => simp [List.replicate_succ, climb, ih]

/-- Taking double dots away beforehand makes no difference, unless those at the head vanish and mean
something. -/
theorem climb_squeeze {absolute : Bool} {top : List String} (h : absolute = true → top = [])
    (done parts : List String) :
    climb top (squeeze absolute done parts) = climb top (done.reverse ++ parts) := by
  fun_induction squeeze absolute done parts with
  | case1 done => simp
  | case2 rest ih =>
    rw [ih]
    cases absolute with
    | false => simp
    | true => simp [h rfl, climb]
  | case3 rest before ih => simpa using ih
  | case4 rest last before hlast ih =>
    rw [ih, List.reverse_cons, List.append_assoc, climb_append, climb_append]
    simp [climb]
  | case5 done part rest hpart ih => simpa using ih

/-- Double dots stand at the head only. -/
def Leading (parts : List String) : Prop := ".." ∉ parts.dropWhile (· == "..")
  deriving Decidable

theorem Leading.of_append {parts rest : List String} (h : Leading (parts ++ rest)) : Leading parts := by
  rw [Leading, List.dropWhile_append] at h
  split at h
  · rename_i hnone
    rw [Leading, List.isEmpty_iff.1 hnone]
    exact List.not_mem_nil
  · exact fun hmem => h (List.mem_append_left rest hmem)

theorem Leading.double {parts : List String} (h : Leading (parts ++ [".."])) :
    Leading (parts ++ ["..", ".."]) := by
  rw [Leading, List.dropWhile_append] at h ⊢
  split at h
  · rename_i hnone
    simp [hnone]
  · simp at h

theorem Leading.push {parts : List String} (h : Leading parts) {part : String} (hpart : part ≠ "..") :
    Leading (parts ++ [part]) := by
  rw [Leading, List.dropWhile_append]
  split
  · simp [hpart, hpart.symm]
  · simpa [Leading, hpart.symm] using h

theorem leading_squeeze {absolute : Bool} {done parts : List String} (h : Leading done.reverse) :
    Leading (squeeze absolute done parts) := by
  fun_induction squeeze absolute done parts with
  | case1 done => exact h
  | case2 rest ih => exact ih (by cases absolute <;> decide)
  | case3 rest before ih => exact ih (by simpa using Leading.double (by simpa using h))
  | case4 rest last before hlast ih => exact ih (Leading.of_append (by simpa using h))
  | case5 done part rest hpart ih => exact ih (by simpa using h.push hpart)

theorem squeeze_sublist (absolute : Bool) (done parts : List String) :
    (squeeze absolute done parts).Sublist (done.reverse ++ parts) := by
  fun_induction squeeze absolute done parts with
  | case1 done => simp
  | case2 rest ih => cases absolute <;> simpa using ih.trans (by simp)
  | case3 rest before ih => simpa using ih
  | case4 rest last before hlast ih =>
    have hless : (before.reverse ++ rest).Sublist (before.reverse ++ (last :: ".." :: rest)) := by simp
    simpa using ih.trans hless
  | case5 done part rest hpart ih => simpa using ih

/-! ### Normalized paths and places -/

/-- The path without the double dots that follow a name. -/
def squeezed (p : Path) : Path := ⟨p.slashes, squeeze p.isAbsolute [] p.parts⟩

/-- How many double dots a normalized path begins with. -/
def ascent (p : Path) : Nat := (p.squeezed.parts.takeWhile (· == "..")).length

/-- Normalized, the paths have the same number of slashes and of double dots in front of their names. -/
def BeginsAs (p q : Path) : Prop := p.slashes = q.slashes ∧ p.ascent = q.ascent
  deriving Decidable

theorem squeezed_parts (p : Path) :
    ∃ names, ".." ∉ names ∧ p.squeezed.parts = List.replicate p.ascent ".." ++ names := by
  refine ⟨p.squeezed.parts.dropWhile (· == ".."), leading_squeeze (by decide), ?_⟩
  have hdots : p.squeezed.parts.takeWhile (· == "..") = List.replicate p.ascent ".." := by
    rw [List.eq_replicate_iff]
    exact ⟨rfl, fun part hpart => by simpa using List.mem_takeWhile_imp hpart⟩
  rw [← hdots, List.takeWhile_append_dropWhile]

theorem Spellable.squeezed {p : Path} (h : p.Spellable) : p.squeezed.Spellable where
  slashes_le := h.slashes_le
  components part hpart := h.components part ((squeeze_sublist p.isAbsolute [] p.parts).subset hpart)

theorem normalize_eq_iff (s s' : String) :
    normalize s = normalize s' ↔ (ofString s).squeezed = (ofString s').squeezed := by
  constructor
  · exact eq_of_text_eq (spellable_ofString s).squeezed (spellable_ofString s').squeezed
  · exact congrArg text

section

variable {root : Path} (hroot : ".." ∉ root.parts)

include hroot

theorem resolve_eq (p : Path) :
    root.resolve p = ⟨1, climb (if p.isAbsolute then [] else root.parts.reverse) p.parts⟩ := by
  unfold resolve join
  split
  · rfl
  · rw [climb_append, climb_of_no_dots hroot, List.reverse_nil, List.nil_append]

theorem resolve_squeezed (p : Path) : root.resolve p.squeezed = root.resolve p := by
  rw [resolve_eq hroot, resolve_eq hroot]
  have hclimb : climb (if p.isAbsolute then [] else root.parts.reverse) p.squeezed.parts
      = climb (if p.isAbsolute then [] else root.parts.reverse) p.parts :=
    climb_squeeze (by simp +contextual) [] p.parts
  exact congrArg (Path.mk 1) hclimb

/-- Paths are normalized to the same path if and only if they lead to the same place and begin alike. -/
theorem squeezed_eq_iff (p q : Path) :
    p.squeezed = q.squeezed ↔ root.resolve p = root.resolve q ∧ p.BeginsAs q := by
  constructor
  · intro h
    have hslashes : p.squeezed.slashes = q.squeezed.slashes := by rw [h]
    refine ⟨?_, hslashes, ?_⟩
    · rw [← resolve_squeezed hroot p, h, resolve_squeezed hroot q]
    · rw [ascent, ascent, h]
  · rintro ⟨hplace, hslashes, hascent⟩
    obtain ⟨names, hnames, hp⟩ := p.squeezed_parts
    obtain ⟨names', hnames', hq⟩ := q.squeezed_parts
    have habsolute : q.squeezed.isAbsolute = p.squeezed.isAbsolute := by
      simp [isAbsolute, squeezed, hslashes]
    rw [← resolve_squeezed hroot p, ← resolve_squeezed hroot q, resolve_eq hroot, resolve_eq hroot, hp, hq,
      habsolute, climb_replicate, climb_replicate, climb_of_no_dots hnames, climb_of_no_dots hnames',
      hascent] at hplace
    -- Both climb to the same directory, so the names from there on are the same.
    have hsame : names = names' := List.append_cancel_left (congrArg parts hplace)
    have hparts : p.squeezed.parts = q.squeezed.parts := by rw [hp, hq, hascent, hsame]
    change Path.mk p.slashes p.squeezed.parts = Path.mk q.slashes q.squeezed.parts
    rw [hslashes, hparts]

end

end Stencil.Path
