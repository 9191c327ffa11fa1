/-!
# Patterns

A pattern says how a text may begin, and its groups keep pieces of what is read. Often there are several ways:
a repetition first takes as many characters as it can and then gives them back one at a time, and an optional
part is first read and then left out. `Pattern.ways` lists all ways in the order in which a search that goes
back tries them, so the search finds the first one. Main statements: which ways there are, for each form of
pattern.
-/
namespace Stencil.Text

inductive Pattern where
  /-- One character of a class. -/
  | one (p : Char → Bool)
  /-- Any number of characters of a class. -/
  | many (p : Char → Bool)
  | seq (first second : Pattern)
  | optional (inner : Pattern)
  /-- Keeps what is read by `inner`. -/
  | group (index : Nat) (inner : Pattern)
  /-- The end of the text, or the place before a line feed that ends it. -/
  | finish

/-- One way to read a pattern at the head of a text. -/
structure Reading where
  read : List Char
  rest : List Char
  groups : List (Nat × List Char)
  deriving DecidableEq, Repr

namespace Reading

/-- What a group keeps, if it takes part. -/
def group? (r : Reading) (index : Nat) : Option (List Char) := r.groups.lookup index

def andThen (r s : Reading) : Reading := ⟨r.read ++ s.read, s.rest, r.groups ++ s.groups⟩

end Reading

namespace Pattern

/-- The pieces at the head of a text that are of one class, the longest one first, each with what follows. -/
def stretches (p : Char → Bool) : List Char → List (List Char × List Char)
  | [] => [([], [])]
  | c :: cs =>
    if p c then (stretches p cs).map (fun (piece, rest) => (c :: piece, rest)) ++ [([], c :: cs)]
    else [([], c :: cs)]

def ways : Pattern → List Char → List Reading
  | one _, [] => []
  | one p, c :: cs => if p c then [⟨[c], cs, []⟩] else []
  | many p, cs => (stretches p cs).map fun (piece, rest) => ⟨piece, rest, []⟩
  | seq first second, cs => (first.ways cs).flatMap fun r => (second.ways r.rest).map r.andThen
  | optional inner, cs => inner.ways cs ++ [⟨[], cs, []⟩]
  | group index inner, cs => (inner.ways cs).map fun r => { r with groups := (index, r.read) :: r.groups }
  | finish, cs => if cs = [] ∨ cs = ['\n'] then [⟨[], cs, []⟩] else []

/-- The reading that a search finds. -/
def search? (p : Pattern) (s : String) : Option Reading := (p.ways s.toList).head?

/-- A character of one class, and then any number of characters of another. -/
def starting (first others : Char → Bool) : Pattern := seq (one first) (many others)

def oneOrMore (p : Char → Bool) : Pattern := starting p p

variable {p : Char → Bool} {cs : List Char} {r : Reading}

theorem cons_mem_stretches {c d : Char} {piece rest : List Char} :
    (d :: piece, rest) ∈ stretches p (c :: cs) ↔ p c = true ∧ c = d ∧ (piece, rest) ∈ stretches p cs := by
  rw [stretches]
  split
  · rename_i hc
    rw [List.mem_append, List.mem_singleton, List.mem_map]
    constructor
    · rintro (⟨⟨others, behind⟩, hmem, heq⟩ | hnil)
      · cases heq
        exact ⟨hc, rfl, hmem⟩
      · cases hnil
    · rintro ⟨-, rfl, hmem⟩
      exact .inl ⟨_, hmem, rfl⟩
  · rename_i hc
    simp [hc]

theorem mem_stretches {piece rest : List Char} :
    (piece, rest) ∈ stretches p cs ↔ piece ++ rest = cs ∧ ∀ c ∈ piece, p c = true := by
  induction cs generalizing piece with
  | nil =>
    rw [stretches, List.mem_singleton, Prod.mk.injEq, List.append_eq_nil_iff]
    constructor
    · rintro ⟨rfl, rfl⟩
      simp
    · exact And.left
  | cons c cs ih =>
    cases piece with
    | nil => by_cases hc : p c = true <;> simp [stretches, hc]
    | cons d piece =>
      rw [cons_mem_stretches, ih, List.cons_append, List.cons.injEq, List.forall_mem_cons]
      constructor
      · rintro ⟨hc, rfl, hcs, hall⟩
        exact ⟨⟨rfl, hcs⟩, hc, hall⟩
      · rintro ⟨⟨rfl, hcs⟩, hc, hall⟩
        exact ⟨hc, rfl, hcs, hall⟩

@[simp] theorem mem_ways_one :
    r ∈ (one p).ways cs ↔ ∃ c rest, p c = true ∧ cs = c :: rest ∧ r = ⟨[c], rest, []⟩ := by
  cases cs with
  | nil => simp [ways]
  | cons c cs =>
    simp only [ways, List.cons.injEq]
    constructor
    · intro h
      split at h
      · rename_i hc
        exact ⟨c, cs, hc, ⟨rfl, rfl⟩, List.mem_singleton.1 h⟩
      · cases h
    · rintro ⟨d, rest, hd, ⟨rfl, rfl⟩, rfl⟩
      rw [if_pos hd]
      exact List.mem_singleton_self _

@[simp] theorem mem_ways_many :
    r ∈ (many p).ways cs ↔
      ∃ piece rest, (∀ c ∈ piece, p c = true) ∧ cs = piece ++ rest ∧ r = ⟨piece, rest, []⟩ := by
  simp only [ways, List.mem_map, Prod.exists, mem_stretches]
  constructor
  · rintro ⟨piece, rest, ⟨hcs, hpiece⟩, rfl⟩
    exact ⟨piece, rest, hpiece, hcs.symm, rfl⟩
  · rintro ⟨piece, rest, hpiece, hcs, rfl⟩
    exact ⟨piece, rest, ⟨hcs.symm, hpiece⟩, rfl⟩

@[simp] theorem mem_ways_seq {first second : Pattern} :
    r ∈ (seq first second).ways cs ↔
      ∃ s ∈ first.ways cs, ∃ t ∈ second.ways s.rest, r = s.andThen t := by
  simp [ways, eq_comm]

theorem andThen_mem_ways {first second : Pattern} {s t : Reading} (hs : s ∈ first.ways cs)
    (ht : t ∈ second.ways s.rest) : s.andThen t ∈ (seq first second).ways cs :=
  mem_ways_seq.2 ⟨s, hs, t, ht, rfl⟩

@[simp] theorem mem_ways_optional {inner : Pattern} :
    r ∈ (optional inner).ways cs ↔ r ∈ inner.ways cs ∨ r = ⟨[], cs, []⟩ := by
  simp [ways]

@[simp] theorem mem_ways_group {index : Nat} {inner : Pattern} :
    r ∈ (group index inner).ways cs ↔
      ∃ s ∈ inner.ways cs, r = { s with groups := (index, s.read) :: s.groups } := by
  simp [ways, eq_comm]

@[simp] theorem mem_ways_finish :
    r ∈ finish.ways cs ↔ (cs = [] ∨ cs = ['\n']) ∧ r = ⟨[], cs, []⟩ := by
  rw [ways]
  split <;> simp_all

@[simp] theorem mem_ways_starting {first others : Char → Bool} :
    r ∈ (starting first others).ways cs ↔
      ∃ c piece rest, first c = true ∧ (∀ d ∈ piece, others d = true) ∧ cs = c :: piece ++ rest ∧
        r = ⟨c :: piece, rest, []⟩ := by
  rw [starting, mem_ways_seq]
  constructor
  · rintro ⟨s, hs, t, ht, rfl⟩
    obtain ⟨c, behind, hc, rfl, rfl⟩ := mem_ways_one.1 hs
    obtain ⟨piece, rest, hpiece, hbehind, rfl⟩ := mem_ways_many.1 ht
    exact ⟨c, piece, rest, hc, hpiece, congrArg (c :: ·) hbehind, rfl⟩
  · rintro ⟨c, piece, rest, hc, hpiece, rfl, rfl⟩
    have hfirst : ⟨[c], piece ++ rest, []⟩ ∈ (one first).ways (c :: piece ++ rest) :=
      mem_ways_one.2 ⟨c, piece ++ rest, hc, rfl, rfl⟩
    have hothers : ⟨piece, rest, []⟩ ∈ (many others).ways (piece ++ rest) :=
      mem_ways_many.2 ⟨piece, rest, hpiece, rfl, rfl⟩
    exact ⟨_, hfirst, _, hothers, rfl⟩

/-- A search fails only if there is no way at all. -/
theorem search?_eq_none_iff {pattern : Pattern} {s : String} :
    pattern.search? s = none ↔ ∀ r, r ∉ pattern.ways s.toList := by
  rw [search?, List.head?_eq_none_iff, List.eq_nil_iff_forall_not_mem]

theorem mem_ways_of_search? {pattern : Pattern} {s : String} (h : pattern.search? s = some r) :
    r ∈ pattern.ways s.toList :=
  List.mem_of_mem_head? h

end Pattern

end Stencil.Text
