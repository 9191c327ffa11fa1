import Stencil.Proofs.Following
import Stencil.Proofs.Normalizing

/-!
# Paths without links

A path is resolved by taking its links away, one inside of another, whether or not anything is there, and the
machine follows a path from link to link. Main statement: where a path that is followed does not run out of links
and leaves no double dot behind, it is resolved to the place to which it leads, or would lead if what is missing
were there. Without links, resolving is a matter of components.
-/
namespace Stencil

/-! ### Places of paths -/

namespace Path

theorem resolve_append (base p : Path) (parts : List String) :
    (base.resolve ⟨p.slashes, p.parts ++ parts⟩).parts = climb (base.resolve p).parts.reverse parts := by
  have hjoin : (base.join ⟨p.slashes, p.parts ++ parts⟩).parts = (base.join p).parts ++ parts := by
    have habsolute : isAbsolute ⟨p.slashes, p.parts ++ parts⟩ = p.isAbsolute := rfl
    unfold join
    rw [habsolute]
    split
    · rfl
    · exact (List.append_assoc _ _ _).symm
  rw [resolve, hjoin, climb_append]
  rfl

theorem resolve_child (base p : Path) {name : String} (h : name ≠ "..") :
    (base.resolve (p.child name)).parts = (base.resolve p).parts ++ [name] := by
  rw [child, resolve_append, climb_of_no_dots (by simpa using h.symm), List.reverse_reverse]

theorem resolve_up (base p : Path) : (base.resolve p.up).parts = (base.resolve p).parts.dropLast := by
  have hdots : (base.resolve (p.child "..")).parts = (base.resolve p).parts.dropLast := by
    rw [child, resolve_append]
    simp [climb]
  unfold up
  split
  · rename_i hnone
    split
    · rename_i habsolute
      have hjoin : base.join p = p := if_pos habsolute
      rw [resolve, hjoin, List.getLast?_eq_none_iff.1 hnone]
      rfl
    · exact hdots
  · rename_i last hlast
    split
    · exact hdots
    · rename_i hname
      obtain ⟨above, hparts⟩ := List.getLast?_eq_some_iff.1 hlast
      have hparent : p.parent.child last = p := by
        rw [child, parent, hparts, List.dropLast_concat, ← hparts]
      rw [← hparent, resolve_child base _ hname, List.dropLast_concat, hparent]

theorem resolve_origin (base here p : Path) :
    (base.resolve (here.origin p)).parts = FileTree.origin (base.resolve here).parts p := by
  unfold origin FileTree.origin
  split <;> rfl

end Path

namespace FileTree

section

variable (t : FileTree) (directory : Path) (depth : Nat) (active : List Path) (done : Path) (rest : List String)

@[simp] theorem unlink_nil : t.unlink directory depth active done [] = .plain done := by
  cases depth <;> rfl

theorem unlink_cons (part : String) :
    t.unlink directory depth active done (part :: rest) =
      if part = ".." then t.unlink directory depth active done.up rest
      else
        match t.entry? (directory.resolve (done.child part)).parts with
        | some (.link target) =>
          if done.child part ∈ active then .looped ⟨done.slashes, done.parts ++ part :: rest⟩
          else
            match depth with
            | 0 => .tooNested
            | depth + 1 =>
              match t.unlink directory depth (done.child part :: active) (done.origin target) target.parts with
              | .plain place => t.unlink directory (depth + 1) active place rest
              | .looped p => .looped ⟨p.slashes, p.parts ++ rest⟩
              | .tooNested => .tooNested
        | _ => t.unlink directory depth active (done.child part) rest := by
  cases depth <;> rfl

theorem unlink_up : t.unlink directory depth active done (".." :: rest) = t.unlink directory depth active done.up rest := by
  rw [unlink_cons, if_pos rfl]

variable {t directory done} {part : String}

theorem unlink_enter (hdots : part ≠ "..")
    (hplain : ∀ e, t.entry? (directory.resolve (done.child part)).parts = some e → e.isLink = false) :
    t.unlink directory depth active done (part :: rest) = t.unlink directory depth active (done.child part) rest := by
  rw [unlink_cons, if_neg hdots]
  split
  · rename_i target hlink
    cases hplain _ hlink
  · rfl

theorem unlink_link {target place : Path} (hdots : part ≠ "..")
    (hentry : t.entry? (directory.resolve (done.child part)).parts = some (.link target))
    (hactive : done.child part ∉ active)
    (hinner : t.unlink directory depth (done.child part :: active) (done.origin target) target.parts = .plain place) :
    t.unlink directory (depth + 1) active done (part :: rest) = t.unlink directory (depth + 1) active place rest := by
  rw [unlink_cons, if_neg hdots, hentry]
  simp only [if_neg hactive, hinner]

variable (done) in
/-- Where nothing is there, no link is. -/
theorem unlink_below (hdots : ".." ∉ rest)
    (hnone : ∀ below, below ≠ [] → below <+: rest → t.entry? ((directory.resolve done).parts ++ below) = none) :
    ∃ q, t.unlink directory depth active done rest = .plain q ∧
      (directory.resolve q).parts = (directory.resolve done).parts ++ rest := by
  induction rest generalizing done with
  | nil => exact ⟨done, unlink_nil t directory depth active done, (List.append_nil _).symm⟩
  | cons part rest ih =>
    rw [List.mem_cons, not_or] at hdots
    have hchild := Path.resolve_child directory done (Ne.symm hdots.1)
    obtain ⟨q, hq, hplace⟩ := ih (done.child part) hdots.2 fun below _ hbelow => by
      rw [hchild, List.append_assoc]
      exact hnone _ (by simp) (by simpa using hbelow)
    refine ⟨q, ?_, by rw [hplace, hchild, List.append_assoc]; rfl⟩
    rw [unlink_enter depth active rest (Ne.symm hdots.1) fun e he => ?_, hq]
    rw [hchild, hnone [part] (by simp) (by simp)] at he
    cases he

end

/-! ### Trees without links -/

section

variable {t : FileTree} (ht : t.Linkless)

include ht

theorem Linkless.unlink_eq (directory : Path) (depth : Nat) (active : List Path) (done : Path) (parts : List String) :
    ∃ q, t.unlink directory depth active done parts = .plain q ∧
      (directory.resolve q).parts = Path.climb (directory.resolve done).parts.reverse parts := by
  induction parts generalizing done with
  | nil => exact ⟨done, unlink_nil t directory depth active done, by simp [Path.climb]⟩
  | cons part rest ih =>
    by_cases hdots : part = ".."
    · subst hdots
      obtain ⟨q, hq, hplace⟩ := ih done.up
      refine ⟨q, by rw [unlink_up, hq], ?_⟩
      rw [hplace, Path.resolve_up]
      simp [Path.climb]
    · obtain ⟨q, hq, hplace⟩ := ih (done.child part)
      refine ⟨q, by rw [unlink_enter depth active rest hdots fun e he => ht.entry he, hq], ?_⟩
      rw [hplace, Path.resolve_child directory done hdots]
      simp [Path.climb]

/-- Without links, a path is resolved by its components alone. -/
theorem Linkless.resolve_eq (directory p : Path) : t.resolve directory p = .ok (directory.resolve p) := by
  obtain ⟨q, hq, hplace⟩ := ht.unlink_eq directory deepestLink [] (Path.origin ⟨0, []⟩ p) p.parts
  have hsame : directory.resolve q = directory.resolve p := by
    have hparts : (directory.resolve q).parts = (directory.resolve p).parts := by
      rw [hplace, ← Path.resolve_append]
      unfold Path.origin
      split
      · rename_i habsolute
        have hjoin (p : Path) (h : p.isAbsolute) : directory.join p = p := if_pos h
        rw [Path.resolve, Path.resolve, hjoin p habsolute, hjoin _ rfl]
        rfl
      · rename_i habsolute
        have hslashes : p.slashes = 0 := by simpa [Path.isAbsolute] using habsolute
        rw [List.nil_append, ← hslashes]
    exact congrArg (Path.mk 1) hparts
  have hlocate (place : Path) : t.locate directory place ≠ .error .tooManyLinks := by
    intro htangled
    rw [locate] at htangled
    cases hwalk : t.walk directory place with
    | arrived place links =>
      rw [hwalk] at htangled
      cases htangled
    | stopped fault place rest =>
      rw [hwalk] at htangled
      cases htangled
      have hfollow := (walk_eq hwalk (by simp)).2
      cases ht.isTangled_eq_false hfollow
  rw [resolve, hq]
  dsimp only
  split
  · exact absurd ‹_› (hlocate _)
  · rw [hsame]

end

/-! ### Links of paths that are followed -/

namespace Walk

/-- Where a path leads, or would lead if what is missing were there. That is not known of one that runs out of
links, or that leaves a double dot behind. -/
def goal? : Walk → Option (List String)
  | arrived place _ => some place
  | stopped .tooManyLinks _ _ => none
  | stopped _ place rest => if ".." ∈ rest then none else some (place ++ rest)

theorem goal?_stopped {fault : FileFault} {place rest goal : List String}
    (h : (stopped fault place rest).goal? = some goal) :
    fault ≠ .tooManyLinks ∧ ".." ∉ rest ∧ goal = place ++ rest := by
  unfold goal? at h
  split at h
  · rename_i hw
    cases hw
  · cases h
  · rename_i hfault hw
    cases hw
    split at h
    · cases h
    · cases h
      exact ⟨hfault, ‹_›, rfl⟩

theorem goal?_of_stopped {fault : FileFault} {place rest : List String} (hfault : fault ≠ .tooManyLinks)
    (hdots : ".." ∉ rest) : (stopped fault place rest).goal? = some (place ++ rest) := by
  cases fault <;> first | exact absurd rfl hfault | exact if_neg hdots

@[simp] theorem goal?_allow (w : Walk) (more : Nat) : (w.allow more).goal? = w.goal? := by
  cases w <;> rfl

/-- Begins anew to count links. -/
def renew (links : Nat) : Walk → Walk
  | arrived place _ => arrived place links
  | stopped fault place rest => stopped fault place rest

@[simp] theorem goal?_renew (w : Walk) (links : Nat) : (w.renew links).goal? = w.goal? := by
  cases w <;> rfl

@[simp] theorem result_renew (w : Walk) (links : Nat) : (w.renew links).result = w.result := by
  cases w <;> rfl

theorem isTangled_of_goal? {w : Walk} {goal : List String} (h : w.goal? = some goal) : w.isTangled = false := by
  cases w with
  | arrived => rfl
  | stopped fault =>
    obtain ⟨hfault, -⟩ := goal?_stopped h
    cases fault <;> first | rfl | exact absurd rfl hfault

end Walk

/-- The names on the way to a goal are those of the path, of where it begins and of links. -/
theorem Follows.forall_goal {t : FileTree} {p : String → Prop}
    (hlinks : ∀ place target, (place, Entry.link target) ∈ t.entries → ∀ name ∈ target.parts, p name) {links : Nat}
    {place parts goal : List String} {w : Walk} (h : t.Follows links place parts w) (hplace : ∀ name ∈ place, p name)
    (hparts : ∀ name ∈ parts, p name) (hgoal : w.goal? = some goal) : ∀ name ∈ goal, p name := by
  induction h with
  | nil =>
    cases hgoal
    exact hplace
  | stop =>
    obtain ⟨-, -, rfl⟩ := Walk.goal?_stopped hgoal
    exact List.forall_mem_append.2 ⟨hplace, hparts⟩
  | up _ _ ih =>
    exact ih (fun name hname => hplace name (List.dropLast_subset _ hname)) (List.forall_mem_cons.1 hparts).2 hgoal
  | enter _ _ _ _ ih =>
    obtain ⟨hpart, hrest⟩ := List.forall_mem_cons.1 hparts
    exact ih (List.forall_mem_append.2 ⟨hplace, List.forall_mem_singleton.2 hpart⟩) hrest hgoal
  | @link links place part rest w target _ entry _ ih =>
    refine ih ?_ (List.forall_mem_append.2 ⟨hlinks _ _ (mem_entries (by simp) entry), ?_⟩) hgoal
    · unfold origin
      split
      · exact List.forall_mem_nil _
      · exact hplace
    · exact (List.forall_mem_cons.1 hparts).2

/-- None of the links can be followed to its end with fewer than so many links. -/
def Pending (t : FileTree) (directory : Path) (links : Nat) (active : List Path) : Prop :=
  ∀ a ∈ active, ∀ target, t.entry? (directory.resolve a).parts = some (.link target) →
    ∀ fewer < links, (t.follow fewer (origin (directory.resolve a).parts.dropLast target) target.parts).isTangled

section

variable {t : FileTree} (ht : t.Rooted) {directory : Path}

theorem Pending.of_le {links fewer : Nat} {active : List Path} (h : t.Pending directory links active)
    (hle : fewer ≤ links) : t.Pending directory fewer active :=
  fun a ha target hentry m hm => h a ha target hentry m (Nat.lt_of_lt_of_le hm hle)

/-- A path that does not run out of links can be followed with a least number of them. -/
theorem exists_least_links {links : Nat} {place parts : List String}
    (h : (t.follow links place parts).isTangled = false) :
    ∃ least ≤ links, (t.follow least place parts).isTangled = false ∧
      ∀ fewer < least, (t.follow fewer place parts).isTangled := by
  have hsome : ∃ n, (t.follow n place parts).isTangled = false := ⟨links, h⟩
  exact ⟨Nat.find hsome, Nat.find_min' hsome h, Nat.find_spec hsome,
    fun fewer hfewer => by simpa using Nat.find_min hsome hfewer⟩

/-- Where a path can be followed with so many links, its links can be taken away. -/
def Unlinks (t : FileTree) (directory : Path) (links : Nat) : Prop :=
  ∀ {depth : Nat}, links ≤ depth → ∀ {active : List Path}, t.Pending directory links active →
    ∀ {done : Path}, t.Standing (directory.resolve done).parts → ∀ {parts goal : List String},
    (t.follow links (directory.resolve done).parts parts).goal? = some goal →
    ∃ q, t.unlink directory depth active done parts = .plain q ∧ (directory.resolve q).parts = goal

section

variable {links depth : Nat} (fewer : ∀ m ≤ links, t.Unlinks directory m) (hdepth : links ≤ depth) {active : List Path}
  (hactive : t.Pending directory (links + 1) active) {done target : Path}
  (hdone : t.Standing (directory.resolve done).parts) {part : String} (hpart : part ≠ "..")
  (hlink : t.entry? (directory.resolve (done.child part)).parts = some (.link target)) {w : Walk}
  (hw : t.follow links (directory.resolve (done.origin target)).parts target.parts = w)

include hactive hpart hlink hw in
/-- A link that can be followed to its end is none of those that cannot. -/
theorem not_mem_of_pending (hfree : w.isTangled = false) : done.child part ∉ active := by
  intro hmem
  have htangled := hactive _ hmem target hlink links (Nat.lt_succ_self _)
  rw [Path.resolve_child directory done hpart, List.dropLast_concat, ← Path.resolve_origin, hw, hfree] at htangled
  cases htangled

include fewer hdepth hactive hdone hpart hlink hw in
/-- The target of a link is followed with the least number of links that will do, which is pending then. -/
theorem unlink_target {goal : List String} (hgoal : w.goal? = some goal) :
    ∃ q, t.unlink directory depth (done.child part :: active) (done.origin target) target.parts = .plain q ∧
      (directory.resolve q).parts = goal := by
  have horigin := Path.resolve_origin directory done target
  obtain ⟨least, hleast, hfree, hfewer⟩ :
      ∃ least ≤ links, (t.follow least (directory.resolve (done.origin target)).parts target.parts).isTangled = false ∧
        ∀ m < least, (t.follow m (directory.resolve (done.origin target)).parts target.parts).isTangled :=
    exists_least_links (hw ▸ Walk.isTangled_of_goal? hgoal)
  have hpending : t.Pending directory least (done.child part :: active) := by
    rintro a (- | ⟨-, ha⟩)
    · intro target' hentry m hm
      rw [hlink] at hentry
      cases hentry
      rw [Path.resolve_child directory done hpart, List.dropLast_concat, ← horigin]
      exact hfewer m hm
    · exact hactive.of_le (Nat.le_succ_of_le hleast) a ha
  -- More links do not matter to how far the target leads.
  have hsame :
      w = (t.follow least (directory.resolve (done.origin target)).parts target.parts).allow (links - least) := by
    rw [← follow_add hfree, Nat.add_sub_cancel' hleast, hw]
  rw [hsame, Walk.goal?_allow] at hgoal
  exact fewer least hleast (Nat.le_trans hleast hdepth) hpending (horigin ▸ hdone.origin target) hgoal

include ht fewer hdepth hactive hdone hpart hlink hw in
/-- Where a path leads through a link, first the links of its target are taken away, and then those of the rest. -/
theorem Rooted.unlink_of_link {rest goal : List String} (hgoal : (w.goOn t rest).goal? = some goal) :
    ∃ q, t.unlink directory (depth + 1) active done (part :: rest) = .plain q ∧ (directory.resolve q).parts = goal := by
  have hwalk := t.follows_follow links (directory.resolve (done.origin target)).parts target.parts
  have hstart : t.Standing (directory.resolve (done.origin target)).parts := by
    rw [Path.resolve_origin]
    exact hdone.origin target
  rw [hw] at hwalk
  cases w with
  | arrived place left =>
    have hnew := not_mem_of_pending hactive hpart hlink hw rfl
    obtain ⟨q, hq, rfl⟩ := unlink_target fewer hdepth hactive hdone hpart hlink hw rfl
    have hleft : left ≤ links := hwalk.links_le
    obtain ⟨q', hq', hplace⟩ := fewer left hleft (Nat.le_trans hleft (Nat.le_succ_of_le hdepth))
      (hactive.of_le (Nat.le_succ_of_le hleft)) (hwalk.standing ht hstart) hgoal
    exact ⟨q', by rw [unlink_link depth active rest hpart hlink hnew hq, hq'], hplace⟩
  | stopped fault place left =>
    obtain ⟨hfault, hdots, rfl⟩ := Walk.goal?_stopped hgoal
    rw [List.mem_append, not_or] at hdots
    have hinner : (Walk.stopped fault place left).goal? = some (place ++ left) :=
      Walk.goal?_of_stopped hfault hdots.1
    have hnew := not_mem_of_pending hactive hpart hlink hw (Walk.isTangled_of_goal? hinner)
    obtain ⟨q, hq, hplace⟩ := unlink_target fewer hdepth hactive hdone hpart hlink hw hinner
    obtain ⟨name, below, rfl, hstops⟩ := hwalk.stops hfault
    obtain ⟨q', hq', hplace'⟩ := unlink_below (depth + 1) active q rest hdots.2 fun xs _ _ => by
      rw [hplace, List.append_assoc]
      exact (hstops 0).none_below ht hfault (below ++ xs)
    refine ⟨q', by rw [unlink_link depth active rest hpart hlink hnew hq, hq'], ?_⟩
    rw [hplace', hplace, List.append_assoc]

end

include ht

/-- Where a path can be followed, its links can be taken away. By the links that may be followed, and then by the
parts. -/
theorem Rooted.unlinks (links : Nat) : t.Unlinks directory links := by
  induction links using Nat.strongRecOn with
  | ind links fewer =>
    intro depth hdepth active hactive done hdone parts goal hgoal
    induction parts generalizing done with
    | nil =>
      rw [Follows.nil.eq] at hgoal
      cases hgoal
      exact ⟨done, unlink_nil t directory depth active done, rfl⟩
    | cons part rest ih =>
      have hfollow := t.follows_follow links (directory.resolve done).parts (part :: rest)
      generalize t.follow links (directory.resolve done).parts (part :: rest) = w at hfollow hgoal
      cases hfollow with
      | stop stops =>
        obtain ⟨hfault, hdots, rfl⟩ := Walk.goal?_stopped hgoal
        refine unlink_below depth active done _ hdots fun below hbelow hprefix => ?_
        obtain ⟨name, below, rfl⟩ := List.exists_cons_of_ne_nil hbelow
        obtain rfl : name = part := (List.cons_prefix_cons.1 hprefix).1
        exact stops.none_below ht hfault below
      | up hdirectory later =>
        have hup := Path.resolve_up directory done
        have hstanding : t.Standing (directory.resolve done.up).parts := hup ▸ hdone.above ht hdirectory
        obtain ⟨q, hq, hplace⟩ := ih hstanding (by rwa [hup, later.eq])
        exact ⟨q, by rw [unlink_up, hq], hplace⟩
      | enter seeks entry plain later =>
        have hchild := Path.resolve_child directory done seeks.ne_dots
        have hstanding : t.Standing (directory.resolve (done.child part)).parts := by
          rw [hchild]
          exact ⟨⟨_, entry, plain⟩, by simpa [hdone.no_dots] using Ne.symm seeks.ne_dots⟩
        obtain ⟨q, hq, hplace⟩ := ih hstanding (by rwa [hchild, later.eq])
        refine ⟨q, ?_, hplace⟩
        rw [unlink_enter depth active rest seeks.ne_dots fun e he => ?_, hq]
        rw [hchild, entry] at he
        cases he
        exact plain
      | @link links _ _ _ _ target seeks entry later =>
        obtain ⟨depth, rfl⟩ :=
          Nat.exists_eq_add_one_of_ne_zero (Nat.ne_of_gt (Nat.lt_of_lt_of_le (Nat.succ_pos _) hdepth))
        have hlink : t.entry? (directory.resolve (done.child part)).parts = some (.link target) := by
          rw [Path.resolve_child directory done seeks.ne_dots, entry]
        have hwhole := later.eq
        rw [follow_append, ← Path.resolve_origin] at hwhole
        exact ht.unlink_of_link (fun m hm => fewer m (Nat.lt_succ_of_le hm)) (Nat.le_of_succ_le_succ hdepth) hactive hdone
          seeks.ne_dots hlink rfl (hwhole ▸ hgoal)

variable {links : Nat} {place parts goal : List String}

/-- What a path leads to is found at its goal. -/
theorem Rooted.follow_goal (hplace : t.Standing place) (hgoal : (t.follow links place parts).goal? = some goal)
    (links' : Nat) : t.follow links' [] goal = (t.follow links place parts).renew links' := by
  have hwalk := t.follows_follow links place parts
  cases hw : t.follow links place parts with
  | arrived place' left =>
    rw [hw] at hgoal hwalk
    cases hgoal
    exact ht.follow_top (hwalk.standing ht hplace) links'
  | stopped fault place' rest =>
    rw [hw] at hgoal hwalk
    obtain ⟨hfault, -, rfl⟩ := Walk.goal?_stopped hgoal
    obtain ⟨part, later, rfl, hstops⟩ := hwalk.stops hfault
    have hthere : t.Standing place' := hwalk.standing ht hplace
    rw [ht.follow_through hthere]
    exact (Follows.stop (hstops links')).eq

/-- Where a path can be followed, it is resolved to where it leads. -/
theorem Rooted.resolve_of_follow (hdirectory : t.Standing directory.parts) {p : Path}
    (hgoal : (t.follow mostLinks (origin directory.parts p) p.parts).goal? = some goal) :
    t.resolve directory p = .ok ⟨1, goal⟩ := by
  have hhere : (directory.resolve ⟨0, []⟩).parts = directory.parts := by
    rw [Path.resolve_eq hdirectory.no_dots]
    exact List.reverse_reverse _
  have hstart : (directory.resolve (Path.origin ⟨0, []⟩ p)).parts = origin directory.parts p := by
    rw [Path.resolve_origin, hhere]
  have hpending : t.Pending directory mostLinks [] := fun _ ha => absurd ha List.not_mem_nil
  have hwalk : (t.follow mostLinks (directory.resolve (Path.origin ⟨0, []⟩ p)).parts p.parts).goal? = some goal := by
    rw [hstart, hgoal]
  have hdepth : mostLinks ≤ deepestLink := by decide
  obtain ⟨q, hq, hplace⟩ := ht.unlinks mostLinks hdepth hpending (hstart ▸ hdirectory.origin p) hwalk
  have hresolved : directory.resolve q = ⟨1, goal⟩ := congrArg (Path.mk 1) hplace
  have hlocate : t.locate directory ⟨1, goal⟩ ≠ .error .tooManyLinks := by
    by_cases hlong : (Path.mk 1 goal).text.utf8ByteSize ≤ longestPath
    · rw [locate_of_short hlong]
      change (t.follow mostLinks [] goal).result ≠ _
      rw [ht.follow_goal (hdirectory.origin p) hgoal, Walk.result_renew]
      intro htangled
      have hfree := Walk.isTangled_of_goal? hgoal
      cases hw : t.follow mostLinks (origin directory.parts p) p.parts with
      | arrived =>
        rw [hw] at htangled
        cases htangled
      | stopped =>
        rw [hw] at htangled hfree
        cases htangled
        cases hfree
    · rw [locate, walk, if_pos (Nat.not_le.1 hlong)]
      simp [Walk.result]
  rw [resolve, hq]
  dsimp only
  rw [hresolved]
  split
  · exact absurd ‹_› hlocate
  · rfl

end

end FileTree

end Stencil
