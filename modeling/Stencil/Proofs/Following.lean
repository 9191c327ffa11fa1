import Stencil.Proofs.FileTree

/-!
# Following paths

Whatever is done with a file begins with following a path, part by part and through the links on the way. Main
statements: what is followed is a derivation, with one case for each way in which a part leads on or stops; more
links that may be followed do not matter to a path that does not run out of them; and nothing lies below the
part at which a path stops.
-/
namespace Stencil.FileTree

open Text (Bytes)

/-! ### Ways of a part -/

/-- A part is looked for among the entries of a directory. -/
structure Seeks (t : FileTree) (place : List String) (part : String) : Prop where
  directory : t.entry? place = some .directory
  ne_dots : part ≠ ".."
  short : ¬ isTooLong part

/-- Why a part leads no further, where so many links may be followed. -/
inductive Stops (t : FileTree) (links : Nat) (place : List String) (part : String) : FileFault → Prop
  | notDirectory (other : t.entry? place ≠ some .directory) : Stops t links place part .notDirectory
  | nameTooLong (directory : t.entry? place = some .directory) (dots : part ≠ "..") (long : isTooLong part) :
      Stops t links place part .nameTooLong
  | missing (seeks : t.Seeks place part) (entry : t.entry? (place ++ [part]) = none) :
      Stops t links place part .missing
  | tooManyLinks {target : Path} (seeks : t.Seeks place part)
      (entry : t.entry? (place ++ [part]) = some (.link target)) (none_left : links = 0) :
      Stops t links place part .tooManyLinks

/-- How the parts of a path are followed from a place, where so many links may be followed. -/
inductive Follows (t : FileTree) : Nat → List String → List String → Walk → Prop
  | nil {links place} : Follows t links place [] (.arrived place links)
  | stop {links place part rest fault} (stops : t.Stops links place part fault) :
      Follows t links place (part :: rest) (.stopped fault place (part :: rest))
  | up {links place rest w} (directory : t.entry? place = some .directory)
      (later : Follows t links place.dropLast rest w) : Follows t links place (".." :: rest) w
  | enter {links place part rest w e} (seeks : t.Seeks place part) (entry : t.entry? (place ++ [part]) = some e)
      (plain : e.isLink = false) (later : Follows t links (place ++ [part]) rest w) :
      Follows t links place (part :: rest) w
  | link {links place part rest w target} (seeks : t.Seeks place part)
      (entry : t.entry? (place ++ [part]) = some (.link target))
      (later : Follows t links (origin place target) (target.parts ++ rest) w) :
      Follows t (links + 1) place (part :: rest) w

section

variable {t : FileTree}

/-- What a derivation says is what following gives. -/
theorem Follows.eq {links : Nat} {place parts : List String} {w : Walk} (h : t.Follows links place parts w) :
    t.follow links place parts = w := by
  induction h with
  | @nil links place => cases links <;> rfl
  | @stop links place part rest fault stops =>
    cases stops with
    | notDirectory => cases links <;> simp [follow, followWith]
    | nameTooLong directory dots long => cases links <;> simp [follow, followWith, directory, dots, long]
    | missing seeks entry =>
      obtain ⟨directory, dots, short⟩ := seeks
      cases links <;> simp [follow, followWith, directory, dots, short, entry]
    | tooManyLinks seeks entry none_left =>
      obtain ⟨directory, dots, short⟩ := seeks
      subst none_left
      simp [follow, followWith, directory, dots, short, entry]
  | @up links place rest w directory _ ih =>
    rw [← ih]
    cases links <;> simp [follow, followWith, directory]
  | @enter links place part rest w e seeks entry plain _ ih =>
    obtain ⟨directory, dots, short⟩ := seeks
    rw [← ih]
    cases e with
    | link => cases plain
    | file | directory => cases links <;> simp [follow, followWith, directory, dots, short, entry]
  | link seeks entry _ ih =>
    obtain ⟨directory, dots, short⟩ := seeks
    rw [← ih]
    simp [follow, followWith, directory, dots, short, entry]

/-- By the links that may be followed, and then by the parts. -/
theorem exists_follows (t : FileTree) (links : Nat) (place parts : List String) :
    ∃ w, t.Follows links place parts w := by
  induction links using Nat.strongRecOn generalizing place parts with
  | ind links fewer =>
    induction parts generalizing place with
    | nil => exact ⟨_, .nil⟩
    | cons part rest ih =>
      by_cases directory : t.entry? place = some .directory
      · by_cases dots : part = ".."
        · obtain ⟨w, later⟩ := ih place.dropLast
          exact ⟨w, dots ▸ .up directory later⟩
        · by_cases long : isTooLong part
          · exact ⟨_, .stop (.nameTooLong directory dots long)⟩
          · have seeks : t.Seeks place part := ⟨directory, dots, long⟩
            cases entry : t.entry? (place ++ [part]) with
            | none => exact ⟨_, .stop (.missing seeks entry)⟩
            | some e =>
              cases e with
              | file | directory =>
                obtain ⟨w, later⟩ := ih (place ++ [part])
                exact ⟨w, .enter seeks entry rfl later⟩
              | link target =>
                cases links with
                | zero => exact ⟨_, .stop (.tooManyLinks seeks entry rfl)⟩
                | succ links =>
                  obtain ⟨w, later⟩ := fewer links (Nat.lt_succ_self _) (origin place target) (target.parts ++ rest)
                  exact ⟨w, .link seeks entry later⟩
      · exact ⟨_, .stop (.notDirectory directory)⟩

theorem follows_follow (t : FileTree) (links : Nat) (place parts : List String) :
    t.Follows links place parts (t.follow links place parts) := by
  obtain ⟨w, h⟩ := t.exists_follows links place parts
  rwa [h.eq]

end

/-! ### Parts and links -/

namespace Walk

/-- The last place that a path leads to. -/
def place : Walk → List String
  | arrived place _ | stopped _ place _ => place

/-- Goes on with more parts from where a path leads. -/
def goOn (t : FileTree) (parts : List String) : Walk → Walk
  | arrived place links => t.follow links place parts
  | stopped fault place rest => stopped fault place (rest ++ parts)

/-- Lets more links be followed. -/
def allow (more : Nat) : Walk → Walk
  | arrived place links => arrived place (links + more)
  | stopped fault place rest => stopped fault place rest

/-- Was the path given up because of its links? -/
def isTangled : Walk → Bool
  | stopped .tooManyLinks _ _ => true
  | _ => false

theorem result_eq_ok {w : Walk} {place : List String} : w.result = .ok place ↔ ∃ left, w = .arrived place left := by
  cases w <;> simp [result]

theorem result_eq_error {w : Walk} {fault : FileFault} :
    w.result = .error fault ↔ ∃ place rest, w = .stopped fault place rest := by
  cases w <;> simp [result]

end Walk

section

variable {t : FileTree} {links : Nat} {place parts : List String} {w : Walk}

theorem follow_append (t : FileTree) (links : Nat) (place xs ys : List String) :
    t.follow links place (xs ++ ys) = (t.follow links place xs).goOn t ys := by
  have h := t.follows_follow links place xs
  generalize t.follow links place xs = w at h
  induction h with
  | nil => rfl
  | stop stops =>
    refine (Follows.stop ?_).eq
    cases stops with
    | notDirectory other => exact .notDirectory other
    | nameTooLong directory dots long => exact .nameTooLong directory dots long
    | missing seeks entry => exact .missing seeks entry
    | tooManyLinks seeks entry none_left => exact .tooManyLinks seeks entry none_left
  | up directory _ ih => exact (Follows.up directory (ih ▸ t.follows_follow _ _ _)).eq
  | enter seeks entry plain _ ih => exact (Follows.enter seeks entry plain (ih ▸ t.follows_follow _ _ _)).eq
  | link seeks entry _ ih =>
    rw [List.append_assoc] at ih
    exact (Follows.link seeks entry (ih ▸ t.follows_follow _ _ _)).eq

/-- A path that does not run out of links leads as far where more may be followed. -/
theorem Follows.allow (h : t.Follows links place parts w) (hw : w.isTangled = false) (more : Nat) :
    t.Follows (links + more) place parts (w.allow more) := by
  induction h with
  | nil => exact .nil
  | stop stops =>
    refine .stop ?_
    cases stops with
    | notDirectory other => exact .notDirectory other
    | nameTooLong directory dots long => exact .nameTooLong directory dots long
    | missing seeks entry => exact .missing seeks entry
    | tooManyLinks => cases hw
  | up directory _ ih => exact .up directory (ih hw)
  | enter seeks entry plain _ ih => exact .enter seeks entry plain (ih hw)
  | @link links _ _ _ _ _ seeks entry _ ih =>
    rw [Nat.add_right_comm]
    exact .link seeks entry (ih hw)

theorem follow_add (hw : (t.follow links place parts).isTangled = false) (more : Nat) :
    t.follow (links + more) place parts = (t.follow links place parts).allow more :=
  ((t.follows_follow links place parts).allow hw more).eq

/-- Following uses links up and gives none back. -/
theorem Follows.links_le {place' : List String} {left : Nat}
    (h : t.Follows links place parts (.arrived place' left)) : left ≤ links := by
  generalize hw : Walk.arrived place' left = w at h
  induction h with
  | nil =>
    cases hw
    exact Nat.le_refl _
  | stop => cases hw
  | up _ _ ih => exact ih hw
  | enter _ _ _ _ ih => exact ih hw
  | link _ _ _ ih => exact Nat.le_succ_of_le (ih hw)

/-- Where a path stops, it stops however many links may be followed. -/
theorem Follows.stops {fault : FileFault} {place' rest : List String}
    (h : t.Follows links place parts (.stopped fault place' rest)) (hfault : fault ≠ .tooManyLinks) :
    ∃ part later, rest = part :: later ∧ ∀ links', t.Stops links' place' part fault := by
  generalize hw : Walk.stopped fault place' rest = w at h
  induction h with
  | nil => cases hw
  | @stop links place part later fault' stops =>
    cases hw
    refine ⟨part, later, rfl, fun links' => ?_⟩
    cases stops with
    | notDirectory other => exact .notDirectory other
    | nameTooLong directory dots long => exact .nameTooLong directory dots long
    | missing seeks entry => exact .missing seeks entry
    | tooManyLinks => exact absurd rfl hfault
  | up _ _ ih => exact ih hw
  | enter _ _ _ _ ih => exact ih hw
  | link _ _ _ ih => exact ih hw

end

/-! ### Places -/

/-- A place where following can begin or end. -/
structure Standing (t : FileTree) (place : List String) : Prop where
  entry : ∃ e, t.entry? place = some e ∧ e.isLink = false
  no_dots : ".." ∉ place

section

variable {t : FileTree} (ht : t.Rooted) {links : Nat} {place parts : List String} {w : Walk}

theorem standing_nil (t : FileTree) : t.Standing [] := ⟨⟨.directory, rfl, rfl⟩, List.not_mem_nil⟩

theorem Standing.origin (h : t.Standing place) (p : Path) : t.Standing (origin place p) := by
  unfold FileTree.origin
  split
  · exact t.standing_nil
  · exact h

include ht

theorem Standing.above (h : t.Standing place) (hdirectory : t.entry? place = some .directory) :
    t.Standing place.dropLast :=
  ⟨⟨.directory, ht.parent hdirectory, rfl⟩, fun hdots => h.no_dots (List.dropLast_subset _ hdots)⟩

/-- A path leads to a place that is there. -/
theorem Follows.standing (h : t.Follows links place parts w) (hplace : t.Standing place) : t.Standing w.place := by
  induction h with
  | nil => exact hplace
  | stop => exact hplace
  | up directory _ ih => exact ih (hplace.above ht directory)
  | enter seeks entry plain _ ih =>
    refine ih ⟨⟨_, entry, plain⟩, ?_⟩
    simpa [hplace.no_dots] using Ne.symm seeks.ne_dots
  | @link links place part rest w target seeks entry _ ih => exact ih (hplace.origin target)

/-- A place that is there is found by its own parts. -/
theorem Rooted.follow_of_standing {rest : List String} (h : t.Standing (place ++ rest)) (links : Nat) :
    t.follow links place rest = .arrived (place ++ rest) links := by
  obtain ⟨⟨e, hentry, hplain⟩, hdots⟩ := h
  have hshort := ht.short (by rw [hentry]; rfl)
  induction rest generalizing place with
  | nil =>
    rw [List.append_nil]
    exact Follows.nil.eq
  | cons part rest ih =>
    have hpart : part ≠ ".." := by
      rintro rfl
      exact hdots (by simp)
    have seeks : t.Seeks place part :=
      ⟨ht.directory (List.cons_ne_nil _ _) (by rw [hentry]; rfl), hpart, hshort part (by simp)⟩
    rw [List.append_cons] at hentry hdots hshort ⊢
    have hlater := ih hdots hentry hshort
    by_cases hrest : rest = []
    · subst hrest
      rw [List.append_nil] at hentry
      exact (Follows.enter seeks hentry hplain (hlater ▸ t.follows_follow _ _ _)).eq
    · have hdirectory := ht.directory hrest (by rw [hentry]; rfl)
      exact (Follows.enter seeks hdirectory rfl (hlater ▸ t.follows_follow _ _ _)).eq

theorem Rooted.follow_top (h : t.Standing place) (links : Nat) : t.follow links [] place = .arrived place links :=
  @Rooted.follow_of_standing t ht [] place h links

theorem Rooted.follow_through (h : t.Standing place) (links : Nat) (rest : List String) :
    t.follow links [] (place ++ rest) = t.follow links place rest := by
  rw [follow_append, ht.follow_top h]
  rfl

/-- Nothing lies below a part at which a path stops. -/
theorem Stops.none_below {part : String} {fault : FileFault} (h : t.Stops links place part fault)
    (hfault : fault ≠ .tooManyLinks) (rest : List String) : t.entry? (place ++ part :: rest) = none := by
  rw [← Option.not_isSome_iff_eq_none]
  intro hthere
  cases h with
  | notDirectory other => exact other (ht.directory (List.cons_ne_nil _ _) hthere)
  | nameTooLong _ _ long => exact ht.short hthere part (by simp) long
  | missing _ entry =>
    rw [List.append_cons] at hthere
    by_cases hrest : rest = []
    · subst hrest
      rw [List.append_nil, entry] at hthere
      cases hthere
    · have hdirectory := ht.directory hrest hthere
      rw [entry] at hdirectory
      cases hdirectory
  | tooManyLinks => exact hfault rfl

end

/-! ### Trees without links -/

section

variable {t : FileTree} (ht : t.Linkless) {links : Nat} {place parts : List String}

include ht

theorem Linkless.isTangled_eq_false {w : Walk} (h : t.Follows links place parts w) : w.isTangled = false := by
  induction h with
  | nil => rfl
  | stop stops =>
    cases stops with
    | tooManyLinks _ entry => cases ht.entry entry
    | _ => rfl
  | up _ _ ih => exact ih
  | enter _ _ _ _ ih => exact ih
  | link _ entry => cases ht.entry entry

/-- Without links and double dots, a path leads where its parts say. -/
theorem Linkless.place_eq {place' : List String} {left : Nat} (hdots : ".." ∉ parts)
    (h : t.Follows links place parts (.arrived place' left)) : place' = place ++ parts := by
  generalize hw : Walk.arrived place' left = w at h
  induction h with
  | nil =>
    cases hw
    simp
  | stop => cases hw
  | up => exact absurd List.mem_cons_self hdots
  | enter _ _ _ _ ih =>
    rw [ih (fun hdots' => hdots (List.mem_cons_of_mem _ hdots')) hw]
    simp
  | link _ entry => cases ht.entry entry

end

/-! ### Faults -/

/-- A link leads to a name that is too long to exist. -/
def OverlongLink (t : FileTree) : Prop :=
  ∃ p ∈ t.entries, ∃ target, p.2 = .link target ∧ ∃ name ∈ target.parts, isTooLong name

theorem Linkless.not_overlongLink {t : FileTree} (h : t.Linkless) : ¬ t.OverlongLink := by
  rintro ⟨p, hp, target, hlink, -⟩
  have hplain := h p hp
  rw [hlink] at hplain
  cases hplain

/-- A path stops because nothing is there, or at a name that is too long, its own or that of a link. -/
theorem Follows.fault_cases {t : FileTree} {links : Nat} {place parts place' rest : List String}
    {fault : FileFault} (h : t.Follows links place parts (.stopped fault place' rest)) :
    fault.isAbsence ∨ fault = .nameTooLong ∧ ((∃ name ∈ parts, isTooLong name) ∨ t.OverlongLink) := by
  generalize hw : Walk.stopped fault place' rest = w at h
  induction h with
  | nil => cases hw
  | @stop links place part rest fault stops =>
    cases hw
    cases stops with
    | nameTooLong _ _ long => exact .inr ⟨rfl, .inl ⟨part, List.mem_cons_self, long⟩⟩
    | notDirectory | missing | tooManyLinks => exact .inl rfl
  | up _ _ ih =>
    exact (ih hw).imp_right (.imp_right (.imp_left fun ⟨name, hname, hlong⟩ =>
      ⟨name, List.mem_cons_of_mem _ hname, hlong⟩))
  | enter _ _ _ _ ih =>
    exact (ih hw).imp_right (.imp_right (.imp_left fun ⟨name, hname, hlong⟩ =>
      ⟨name, List.mem_cons_of_mem _ hname, hlong⟩))
  | @link links place part rest w target seeks entry _ ih =>
    refine (ih hw).imp_right (.imp_right ?_)
    rintro (⟨name, hname, hlong⟩ | hlink)
    · obtain hname | hname := List.mem_append.1 hname
      · exact .inr ⟨_, mem_entries (by simp) entry, target, rfl, name, hname, hlong⟩
      · exact .inl ⟨name, List.mem_cons_of_mem _ hname, hlong⟩
    · exact .inr hlink

/-! ### New entries -/

section

variable {t t' : FileTree} {directory p : Path}

theorem makeDirectory_eq_ok (h : t.makeDirectory directory p = .ok t') :
    ∃ above name, t.entry? above = some .directory ∧ ¬ isTooLong name ∧ t.entry? (above ++ [name]) = none ∧
      t' = t.set (above ++ [name]) .directory := by
  unfold makeDirectory at h
  split at h
  · cases h
  · rename_i name hname
    split at h
    · cases h
    · cases hlocate : t.locate directory p.parent with
      | error fault =>
        rw [hlocate] at h
        cases h
      | ok above =>
        rw [hlocate] at h
        by_cases hdirectory : t.entry? above = some .directory
        · simp only [bind, Except.bind, hdirectory, ne_eq, not_true_eq_false, if_false] at h
          split at h
          · cases h
          · split at h
            · cases h
            · rename_i hshort
              split at h
              · cases h
              · rename_i hfree
                cases h
                exact ⟨above, name, hdirectory, hshort, by simpa using hfree, rfl⟩
        · simp [bind, Except.bind, hdirectory] at h

theorem write_eq_ok {content : Bytes} (h : t.write directory p content = .ok t') :
    (∃ place links former, t.walk directory p = .arrived place links ∧ t.entry? place = some (.file former) ∧
      t' = t.set place (.file content)) ∨
    ∃ above name, t.walk directory p = .stopped .missing above [name] ∧
      t' = t.set (above ++ [name]) (.file content) := by
  unfold write at h
  split at h
  · split at h
    · cases h
      exact .inl ⟨_, _, _, ‹_›, ‹_›, rfl⟩
    · cases h
    · cases h
  · cases h
    exact .inr ⟨_, _, ‹_›, rfl⟩
  · cases h

/-- A path that leads anywhere is not too long to be followed. -/
theorem walk_eq {w : Walk} (h : t.walk directory p = w) (hw : ∀ place rest, w ≠ .stopped .nameTooLong place rest) :
    p.text.utf8ByteSize ≤ longestPath ∧ t.Follows mostLinks (origin directory.parts p) p.parts w := by
  unfold walk at h
  split at h
  · exact absurd h.symm (hw _ _)
  · exact ⟨Nat.not_lt.1 ‹_›, h ▸ t.follows_follow _ _ _⟩

theorem Rooted.makeDirectory (h : t.Rooted) (ht : t.makeDirectory directory p = .ok t') : t'.Rooted := by
  obtain ⟨above, name, hdirectory, hshort, -, rfl⟩ := makeDirectory_eq_ok ht
  exact h.set hdirectory hshort (.inl rfl)

theorem Rooted.write (h : t.Rooted) {content : Bytes} (ht : t.write directory p content = .ok t') : t'.Rooted := by
  obtain ⟨place, links, former, hwalk, hfile, rfl⟩ | ⟨above, name, hwalk, rfl⟩ := write_eq_ok ht
  · obtain rfl | ⟨above, name, rfl⟩ := place.eq_nil_or_concat
    · cases hfile
    · rw [List.concat_eq_append] at hfile ⊢
      have hthere : (t.entry? (above ++ [name])).isSome := by rw [hfile]; rfl
      exact h.set (h.above hthere) (h.short hthere name (by simp)) (.inr (by simp [hfile]))
  · obtain ⟨-, hfollow⟩ := walk_eq hwalk (by simp)
    obtain ⟨part, later, hrest, hstops⟩ := hfollow.stops (by simp)
    cases hrest
    cases hstops 0 with
    | missing seeks entry => exact h.set seeks.directory seeks.short (.inr (by simp [entry]))

end

/-! ### Looking -/

section

variable {t : FileTree} {directory p : Path}

theorem kind_of_locate_error {fault : FileFault} (h : t.locate directory p = .error fault) :
    t.kind directory p = .error fault := by
  rw [kind, h]
  rfl

theorem kind_of_locate {place : List String} (h : t.locate directory p = .ok place) :
    t.kind directory p = match t.entry? place with
      | some (.file _) => .ok .file
      | some .directory => .ok .directory
      | _ => .error .missing := by
  rw [kind, h]
  rfl

theorem read_of_locate {place : List String} (h : t.locate directory p = .ok place) :
    t.read directory p = match t.entry? place with
      | some (.file content) => .ok content
      | some .directory => .error .isDirectory
      | _ => .error .missing := by
  rw [read, h]
  rfl

theorem locate_of_short (hshort : p.text.utf8ByteSize ≤ longestPath) :
    t.locate directory p = (t.follow mostLinks (origin directory.parts p) p.parts).result := by
  rw [locate, walk, if_neg (Nat.not_lt.2 hshort)]

theorem locate_of_long (hlong : ¬ p.text.utf8ByteSize ≤ longestPath) :
    t.locate directory p = .error .nameTooLong := by
  rw [locate, walk, if_pos (Nat.not_le.1 hlong)]
  rfl

theorem locate_eq_ok {place : List String} (h : t.locate directory p = .ok place) :
    ∃ left, t.Follows mostLinks (origin directory.parts p) p.parts (.arrived place left) := by
  obtain ⟨left, hwalk⟩ := Walk.result_eq_ok.1 h
  exact ⟨left, (walk_eq hwalk (by simp)).2⟩

theorem locate_eq_error {fault : FileFault} (h : t.locate directory p = .error fault)
    (hshort : p.text.utf8ByteSize ≤ longestPath) :
    ∃ place rest, t.Follows mostLinks (origin directory.parts p) p.parts (.stopped fault place rest) := by
  rw [locate_of_short hshort] at h
  obtain ⟨place, rest, hwalk⟩ := Walk.result_eq_error.1 h
  exact ⟨place, rest, hwalk ▸ t.follows_follow mostLinks (origin directory.parts p) p.parts⟩

end

end Stencil.FileTree
