import Mathlib
import Stencil.Proofs.Template.Descent
import Stencil.Sorting

/-!
# What sorting gives

Main statements: sorting keeps all items; it fails only as a comparison of two of the items fails; and if the
comparison is an order on the items, no item of the result is less than one before it.
-/
namespace Stencil.Sorting

open Template (bind_eq_ok bind_eq_error)

variable {α ε : Type} {less : α → α → Except ε Bool}

/-! ### The items -/

theorem perm_of_firstRun {xs rest : List α} {run : Array α} (h : firstRun less xs = .ok (run, rest)) :
    (run.toList ++ rest).Perm xs := by
  unfold firstRun at h
  split at h
  · cases h
    exact .refl _
  · cases h
    exact .refl _
  · rename_i x y others
    obtain ⟨falling, -, h⟩ := bind_eq_ok.1 h
    obtain ⟨n, -, h⟩ := bind_eq_ok.1 h
    cases h
    have hrun : (if falling then (x :: y :: others.take n).reverse else x :: y :: others.take n).Perm
        (x :: y :: others.take n) := by
      split
      · exact List.reverse_perm _
      · exact .refl _
    have hsplit : (x :: y :: others.take n) ++ others.drop n = x :: y :: others := by simp
    exact (hrun.append_right _).trans (.of_eq hsplit)

theorem le_of_place {x : α} {xs : Array α} {low high i : Nat} (h : place less x xs low high = .ok i)
    (hle : low ≤ high) : low ≤ i ∧ i ≤ high := by
  fun_induction place less x xs low high with
  | case1 low high hlt middle ihLess ihOther =>
    obtain ⟨isLess, -, h⟩ := bind_eq_ok.1 h
    cases isLess with
    | true =>
      have := ihLess h (by omega)
      omega
    | false =>
      have := ihOther h (by omega)
      omega
  | case2 low high hge =>
    cases h
    omega

theorem toList_insertIdxIfInBounds (xs : Array α) {i : Nat} (h : i ≤ xs.size) (x : α) :
    (xs.insertIdxIfInBounds i x).toList = xs.toList.insertIdx i x := by
  simp [Array.insertIdxIfInBounds, h]

theorem perm_of_place {x : α} {sorted : Array α} {i : Nat} (h : place less x sorted 0 sorted.size = .ok i)
    (xs : List α) : ((sorted.insertIdxIfInBounds i x).toList ++ xs).Perm (sorted.toList ++ x :: xs) := by
  have hi := (le_of_place h (Nat.zero_le _)).2
  rw [toList_insertIdxIfInBounds _ hi]
  have hinsert := List.perm_insertIdx x sorted.toList (by simpa using hi)
  exact (hinsert.append_right xs).trans List.perm_middle.symm

theorem perm_of_insertAll {sorted result : Array α} {xs : List α} (h : insertAll less sorted xs = .ok result) :
    result.toList.Perm (sorted.toList ++ xs) := by
  induction xs generalizing sorted with
  | nil =>
    cases h
    simp
  | cons x xs ih =>
    obtain ⟨i, hplace, h⟩ := bind_eq_ok.1 h
    exact (ih h).trans (perm_of_place hplace xs)

/-- Sorting gives each item as often as it was there. -/
theorem perm_of_sort {xs ys : List α} (h : sort less xs = .ok ys) : ys.Perm xs := by
  obtain ⟨⟨run, rest⟩, hrun, h⟩ := bind_eq_ok.1 h
  obtain ⟨sorted, hsorted, h⟩ := bind_eq_ok.1 h
  cases h
  exact (perm_of_insertAll hsorted).trans (perm_of_firstRun hrun)

/-! ### Failures -/

/-- Two of the items cannot be compared. -/
def Clash (less : α → α → Except ε Bool) (xs : List α) (e : ε) : Prop :=
  ∃ a ∈ xs, ∃ b ∈ xs, less a b = .error e

theorem Clash.mono {xs ys : List α} {e : ε} (h : Clash less xs e) (hsub : xs ⊆ ys) : Clash less ys e := by
  obtain ⟨a, ha, b, hb, hless⟩ := h
  exact ⟨a, hsub ha, b, hsub hb, hless⟩

theorem clash_of_runLength {falling : Bool} {last : α} {xs : List α} {e : ε}
    (h : runLength less falling last xs = .error e) : Clash less (last :: xs) e := by
  induction xs generalizing last with
  | nil => cases h
  | cons x xs ih =>
    obtain hless | ⟨isLess, -, h⟩ := bind_eq_error.1 h
    · exact ⟨x, by simp, last, by simp, hless⟩
    · split at h
      · obtain h | ⟨n, -, h⟩ := bind_eq_error.1 h
        · exact (ih h).mono (List.subset_cons_self _ _)
        · cases h
      · cases h

theorem clash_of_firstRun {xs : List α} {e : ε} (h : firstRun less xs = .error e) : Clash less xs e := by
  unfold firstRun at h
  split at h
  · cases h
  · cases h
  · rename_i x y others
    obtain hless | ⟨falling, -, h⟩ := bind_eq_error.1 h
    · exact ⟨y, by simp, x, by simp, hless⟩
    · obtain h | ⟨n, -, h⟩ := bind_eq_error.1 h
      · exact (clash_of_runLength h).mono (List.subset_cons_self _ _)
      · cases h

theorem exists_of_place {x : α} {xs : Array α} {low high : Nat} {e : ε} (h : place less x xs low high = .error e)
    (hhigh : high ≤ xs.size) : ∃ a ∈ xs.toList, less x a = .error e := by
  fun_induction place less x xs low high with
  | case1 low high hlt middle ihLess ihOther =>
    have hmiddle : middle < xs.size := by omega
    obtain hless | ⟨isLess, -, h⟩ := bind_eq_error.1 h
    · rw [Array.getD_eq_getD_getElem?, Array.getElem?_eq_getElem hmiddle] at hless
      exact ⟨xs[middle], Array.getElem_mem_toList hmiddle, hless⟩
    · cases isLess with
      | true => exact ihLess h (by omega)
      | false => exact ihOther h hhigh
  | case2 low high hge => cases h

theorem clash_of_insertAll {sorted : Array α} {xs : List α} {e : ε} (h : insertAll less sorted xs = .error e) :
    Clash less (sorted.toList ++ xs) e := by
  induction xs generalizing sorted with
  | nil => cases h
  | cons x xs ih =>
    obtain h | ⟨i, hplace, h⟩ := bind_eq_error.1 h
    · obtain ⟨a, ha, hless⟩ := exists_of_place h (Nat.le_refl _)
      exact ⟨x, by simp, a, List.mem_append_left _ ha, hless⟩
    · exact (ih h).mono (perm_of_place hplace xs).subset

/-- Sorting fails only where two of the items cannot be compared. -/
theorem clash_of_sort {xs : List α} {e : ε} (h : sort less xs = .error e) : Clash less xs e := by
  obtain h | ⟨⟨run, rest⟩, hrun, h⟩ := bind_eq_error.1 h
  · exact clash_of_firstRun h
  · obtain h | ⟨sorted, -, h⟩ := bind_eq_error.1 h
    · exact (clash_of_insertAll h).mono (perm_of_firstRun hrun).subset
    · cases h

/-! ### The order -/

/-- The comparison of the items with this property is one by some order. -/
structure Orders (less : α → α → Except ε Bool) (p : α → Prop) : Prop where
  asymm {a b : α} (ha : p a) (hb : p b) : less a b = .ok true → less b a = .ok false
  trans {a b c : α} (ha : p a) (hb : p b) (hc : p c) :
    less b a = .ok false → less c b = .ok false → less c a = .ok false

/-- No item is less than one before it. -/
def Rising (less : α → α → Except ε Bool) (xs : List α) : Prop := xs.Pairwise fun a b => less b a = .ok false

theorem isChain_of_runLength {falling : Bool} {last : α} {xs : List α} {n : Nat}
    (h : runLength less falling last xs = .ok n) :
    (last :: xs.take n).IsChain fun a b => less b a = .ok falling := by
  induction xs generalizing last n with
  | nil => simp
  | cons x xs ih =>
    obtain ⟨isLess, hless, h⟩ := bind_eq_ok.1 h
    split at h
    · rename_i hfalling
      obtain ⟨n, hn, h⟩ := bind_eq_ok.1 h
      cases h
      rw [beq_iff_eq] at hfalling
      subst hfalling
      exact .cons_cons hless (ih hn)
    · cases h
      simp

namespace Orders

variable {p : α → Prop} (h : Orders less p)

include h

theorem rising_of_isChain {xs : List α} (hp : ∀ x ∈ xs, p x)
    (hxs : xs.IsChain fun a b => less b a = .ok false) : Rising less xs := by
  let r (a b : α) : Prop := (p a ∧ p b) ∧ less b a = .ok false
  have : Trans r r r := ⟨fun hab hbc => ⟨⟨hab.1.1, hbc.1.2⟩, h.trans hab.1.1 hab.1.2 hbc.1.2 hab.2 hbc.2⟩⟩
  have hchain : xs.IsChain r := hxs.imp_of_mem_imp fun a b ha hb hless => ⟨⟨hp a ha, hp b hb⟩, hless⟩
  exact hchain.pairwise.imp And.right

theorem rising_of_firstRun {xs rest : List α} {run : Array α} (hp : ∀ x ∈ xs, p x)
    (hrun : firstRun less xs = .ok (run, rest)) : Rising less run.toList := by
  have hp' : ∀ x ∈ run.toList, p x := fun x hx =>
    hp x ((perm_of_firstRun hrun).subset (List.mem_append_left _ hx))
  unfold firstRun at hrun
  split at hrun
  · cases hrun
    exact .nil
  · cases hrun
    exact List.pairwise_singleton _ _
  · rename_i x y others
    obtain ⟨falling, hless, hrun⟩ := bind_eq_ok.1 hrun
    obtain ⟨n, hn, hrun⟩ := bind_eq_ok.1 hrun
    cases hrun
    have hchain : (x :: y :: others.take n).IsChain fun a b => less b a = .ok falling :=
      .cons_cons hless (isChain_of_runLength hn)
    refine h.rising_of_isChain hp' ?_
    cases falling with
    | false => exact hchain
    | true =>
      simp only [if_true, List.isChain_reverse]
      refine hchain.imp_of_mem_imp fun a b ha hb hba => ?_
      exact h.asymm (hp' b (List.mem_reverse.2 hb)) (hp' a (List.mem_reverse.2 ha)) hba

/-- The place of an item is behind all items that it is not less than, and before all the others. -/
theorem place_spec {x : α} {xs : Array α} (hx : p x) (hp : ∀ a ∈ xs.toList, p a) (hxs : Rising less xs.toList)
    {low high i : Nat} (hplace : place less x xs low high = .ok i) (hle : low ≤ high) (hhigh : high ≤ xs.size)
    (before : ∀ a ∈ xs.toList.take low, less x a = .ok false)
    (after : ∀ a ∈ xs.toList.drop high, less a x = .ok false) :
    (∀ a ∈ xs.toList.take i, less x a = .ok false) ∧ ∀ a ∈ xs.toList.drop i, less a x = .ok false := by
  fun_induction place less x xs low high with
  | case1 low high hlt middle ihLess ihOther =>
    have hmiddle : middle < xs.toList.length := by
      rw [Array.length_toList]
      omega
    obtain ⟨isLess, hless, hplace⟩ := bind_eq_ok.1 hplace
    have hitem : xs.getD middle x = xs.toList[middle] := by
      simp [Array.getD_eq_getD_getElem?, Array.getElem?_eq_getElem (show middle < xs.size by omega)]
    rw [hitem] at hless
    have hm := hp _ (List.getElem_mem hmiddle)
    cases isLess with
    | true =>
      refine ihLess hplace (by omega) (by omega) before fun a ha => ?_
      have hsplit := hxs.sublist (List.drop_sublist middle xs.toList)
      have hpa := hp a (List.mem_of_mem_drop ha)
      rw [List.drop_eq_getElem_cons hmiddle] at hsplit ha
      obtain rfl | hlater := List.mem_cons.1 ha
      · exact h.asymm hx hm hless
      · exact h.trans hx hm hpa (h.asymm hx hm hless) ((List.pairwise_cons.1 hsplit).1 a hlater)
    | false =>
      refine ihOther hplace (by omega) hhigh (fun a ha => ?_) after
      have hsplit := hxs.sublist (List.take_sublist (middle + 1) xs.toList)
      have hpa := hp a (List.mem_of_mem_take ha)
      rw [List.take_succ_eq_append_getElem hmiddle] at hsplit ha
      obtain hearlier | hsame := List.mem_append.1 ha
      · exact h.trans hpa hm hx ((List.pairwise_append.1 hsplit).2.2 a hearlier _ (by simp)) hless
      · rw [List.mem_singleton.1 hsame]
        exact hless
  | case2 low high hge =>
    have hi : low = i := by
      cases hplace
      rfl
    have hhigh : high = i := by omega
    subst hi
    subst hhigh
    exact ⟨before, after⟩

omit h in
theorem rising_insertIdx {xs : List α} {x : α} {i : Nat} (hxs : Rising less xs)
    (before : ∀ a ∈ xs.take i, less x a = .ok false) (after : ∀ a ∈ xs.drop i, less a x = .ok false) :
    Rising less (xs.insertIdx i x) := by
  induction xs generalizing i with
  | nil => cases i <;> simp [Rising]
  | cons y ys ih =>
    obtain ⟨hy, hys⟩ := List.pairwise_cons.1 hxs
    cases i with
    | zero => exact .cons after hxs
    | succ i =>
      rw [List.insertIdx_succ_cons]
      refine .cons (fun a ha => ?_) (ih hys (fun a ha => before a (List.mem_cons_of_mem _ ha)) after)
      obtain rfl | hmem := List.eq_or_mem_of_mem_insertIdx ha
      · exact before y List.mem_cons_self
      · exact hy a hmem

theorem rising_of_insertAll {sorted result : Array α} {xs : List α} (hsorted : ∀ a ∈ sorted.toList, p a)
    (hxs : ∀ x ∈ xs, p x) (hrising : Rising less sorted.toList)
    (hinsert : insertAll less sorted xs = .ok result) : Rising less result.toList := by
  induction xs generalizing sorted with
  | nil =>
    cases hinsert
    exact hrising
  | cons x xs ih =>
    obtain ⟨i, hplace, hinsert⟩ := bind_eq_ok.1 hinsert
    obtain ⟨hx, hxs⟩ := List.forall_mem_cons.1 hxs
    obtain ⟨before, after⟩ := h.place_spec hx hsorted hrising hplace (Nat.zero_le _) (Nat.le_refl _)
      (by simp) (by simp [← Array.length_toList])
    have hlist := toList_insertIdxIfInBounds sorted (le_of_place hplace (Nat.zero_le _)).2 x
    refine ih ?_ hxs ?_ hinsert
    · intro a ha
      rw [hlist] at ha
      obtain rfl | hmem := List.eq_or_mem_of_mem_insertIdx ha
      · exact hx
      · exact hsorted a hmem
    · rw [hlist]
      exact rising_insertIdx hrising before after

/-- Items of an order are sorted by it. -/
theorem rising_of_sort {xs ys : List α} (hxs : ∀ x ∈ xs, p x) (hsort : sort less xs = .ok ys) :
    Rising less ys := by
  obtain ⟨⟨run, rest⟩, hrun, hsort⟩ := bind_eq_ok.1 hsort
  obtain ⟨sorted, hsorted, hsort⟩ := bind_eq_ok.1 hsort
  cases hsort
  have hall : ∀ x ∈ run.toList ++ rest, p x := fun x hx => hxs x ((perm_of_firstRun hrun).subset hx)
  obtain ⟨hp, hrest⟩ := List.forall_mem_append.1 hall
  exact h.rising_of_insertAll hp hrest (h.rising_of_firstRun hxs hrun) hsorted

end Orders

end Stencil.Sorting
