import Stencil.FileTree

/-!
# Entries of file trees

An entry lies in a directory, which lies in a directory, up to the root. Main statement: setting an entry in a
directory keeps it so.
-/
namespace Stencil

def Entry.isLink : Entry → Bool
  | link _ => true
  | _ => false

namespace FileTree

/-! ### Trees -/

/-- Each entry lies in a directory, and its names are such as a path may have. -/
def Rooted (t : FileTree) : Prop :=
  ∀ p ∈ t.entries, t.entry? p.1.dropLast = some .directory ∧ ∀ name ∈ p.1, ¬ isTooLong name

instance (t : FileTree) : Decidable t.Rooted := inferInstanceAs (Decidable (∀ p ∈ t.entries,
  t.entry? p.1.dropLast = some .directory ∧ ∀ name ∈ p.1, ¬ isTooLong name))

/-- No entry is a symbolic link. -/
def Linkless (t : FileTree) : Prop := ∀ p ∈ t.entries, p.2.isLink = false

instance (t : FileTree) : Decidable t.Linkless := inferInstanceAs (Decidable (∀ p ∈ t.entries, p.2.isLink = false))

section

variable {t : FileTree}

@[simp] theorem entry?_nil (t : FileTree) : t.entry? [] = some .directory := rfl

theorem entry?_set_self (t : FileTree) {place : List String} (h : place ≠ []) (e : Entry) :
    entry? (t.set place e) place = some e := by
  unfold entry?
  simp [set, h]

theorem lookup_filter_ne (entries : List (List String × Entry)) {place other : List String}
    (h : other ≠ place) : (entries.filter fun p => p.1 ≠ place).lookup other = entries.lookup other := by
  have hb : (other == place) = false := by simpa using h
  induction entries with
  | nil => rfl
  | cons p rest ih =>
    obtain ⟨here, e⟩ := p
    by_cases hp : here = place
    · subst hp
      simpa [List.lookup_cons, hb] using ih
    · simp only [List.filter_cons, ne_eq, hp, not_false_eq_true, decide_true, if_true, List.lookup_cons, ih]

theorem entry?_set_of_ne (t : FileTree) {place other : List String} (h : other ≠ place) (e : Entry) :
    entry? (t.set place e) other = t.entry? other := by
  have hb : (other == place) = false := by simpa using h
  unfold entry?
  simp only [set, List.lookup_cons, hb, lookup_filter_ne t.entries h]

theorem mem_entries {place : List String} (hplace : place ≠ []) {e : Entry} (h : t.entry? place = some e) :
    (place, e) ∈ t.entries := by
  have hlookup : t.entries.lookup place = some e := by
    unfold entry? at h
    simpa [hplace] using h
  obtain ⟨before, after, hsplit, -⟩ := List.lookup_eq_some_iff.1 hlookup
  simp [hsplit]

theorem Linkless.entry (h : t.Linkless) {place : List String} {e : Entry} (hentry : t.entry? place = some e) :
    e.isLink = false := by
  by_cases hplace : place = []
  · subst hplace
    cases hentry
    rfl
  · exact h _ (mem_entries hplace hentry)

theorem Rooted.entry (h : t.Rooted) {place : List String} (hplace : place ≠ [])
    (hentry : (t.entry? place).isSome) :
    t.entry? place.dropLast = some .directory ∧ ∀ name ∈ place, ¬ isTooLong name := by
  obtain ⟨e, he⟩ := Option.isSome_iff_exists.1 hentry
  exact h _ (mem_entries hplace he)

theorem Rooted.short (h : t.Rooted) {place : List String} (hentry : (t.entry? place).isSome) :
    ∀ name ∈ place, ¬ isTooLong name := by
  by_cases hplace : place = []
  · simp [hplace]
  · exact (h.entry hplace hentry).2

theorem Rooted.above (h : t.Rooted) {place : List String} {name : String}
    (hentry : (t.entry? (place ++ [name])).isSome) : t.entry? place = some .directory := by
  simpa using (h.entry (by simp) hentry).1

theorem Rooted.directory (h : t.Rooted) {place rest : List String} (hrest : rest ≠ [])
    (hentry : (t.entry? (place ++ rest)).isSome) : t.entry? place = some .directory := by
  -- From the entry upwards: the directory above is found before the ones above that.
  induction rest generalizing place with
  | nil => exact absurd rfl hrest
  | cons name rest ih =>
    by_cases hrest : rest = []
    · subst hrest
      exact h.above hentry
    · have hdir : t.entry? (place ++ [name]) = some .directory := ih hrest (by simpa using hentry)
      exact h.above (by rw [hdir]; rfl)

theorem Rooted.parent (h : t.Rooted) {place : List String} (hplace : t.entry? place = some .directory) :
    t.entry? place.dropLast = some .directory := by
  by_cases htop : place = []
  · subst htop
    rfl
  · exact (h.entry htop (by rw [hplace]; rfl)).1

/-- Setting an entry in a directory gives a tree, unless it takes the place of a directory. -/
theorem Rooted.set (h : t.Rooted) {place : List String} {name : String}
    (hplace : t.entry? place = some .directory) (hname : ¬ isTooLong name) {e : Entry}
    (he : e = .directory ∨ t.entry? (place ++ [name]) ≠ some .directory) :
    (t.set (place ++ [name]) e).Rooted := by
  -- Directories stay, so what lay in one still does.
  have kept {above : List String} (ha : t.entry? above = some .directory) :
      entry? (t.set (place ++ [name]) e) above = some .directory := by
    by_cases hn : above = place ++ [name]
    · subst hn
      obtain rfl | he := he
      · exact entry?_set_self t (by simp) _
      · exact absurd ha he
    · rw [entry?_set_of_ne t hn, ha]
  rintro p hp
  obtain rfl | hp := List.mem_cons.1 hp
  · refine ⟨?_, ?_⟩
    · rw [List.dropLast_concat]
      exact kept hplace
    · have hshort := h.short (by rw [hplace]; rfl)
      simpa [or_imp, forall_and, hname] using hshort
  · have hold := h p (List.mem_filter.1 hp).1
    exact ⟨kept hold.1, hold.2⟩

end

end FileTree

end Stencil
