import Mathlib
import Stencil.Config

/-!
# Bindings given beside a configuration

A binding is given as a text: a name, an equals sign, and a value. Main statement: the bindings of a list of
such texts take the place of those of the configuration just if each text has an equals sign and a name before
it; of several texts for one name the last one counts, and of several bad texts the first one is reported.
-/
namespace Stencil

namespace Expr.Bindings

/-! ### Many bindings at once -/

/-- Binds names one after another. -/
def setAll (b : Bindings) (entries : List (String × String)) : Bindings :=
  entries.foldl (fun b p => b.set p.1 p.2) b

@[simp] theorem setAll_nil (b : Bindings) : b.setAll [] = b := rfl

@[simp] theorem setAll_cons (b : Bindings) (p : String × String) (entries : List (String × String)) :
    b.setAll (p :: entries) = (b.set p.1 p.2).setAll entries := rfl

theorem setAll_append (b : Bindings) (entries more : List (String × String)) :
    b.setAll (entries ++ more) = (b.setAll entries).setAll more := List.foldl_append

/-- What is not bound anew stays as it is. -/
theorem get?_setAll_of_forall_ne (b : Bindings) {entries : List (String × String)} {name : String}
    (h : ∀ p ∈ entries, p.1 ≠ name) : (b.setAll entries).get? name = b.get? name := by
  induction entries generalizing b with
  | nil => rfl
  | cons p entries ih =>
    obtain ⟨hp, hrest⟩ := List.forall_mem_cons.1 h
    rw [setAll_cons, ih _ hrest, get?_set_of_ne b p.2 (Ne.symm hp)]

/-! ### Bindings that are bound to others -/

theorem set_set (b : Bindings) (name value value' : String) :
    (b.set name value).set name value' = b.set name value' := by
  induction b with
  | nil => simp [set]
  | cons p rest ih =>
    obtain ⟨n, v⟩ := p
    by_cases hn : n = name <;> simp [set, hn, ih]

/-- A name that is bound keeps its place, so it does not matter which of two names is bound first. -/
theorem set_comm {b : Bindings} {name other : String} (h : name ∈ b.map Prod.fst) (hne : other ≠ name)
    (value value' : String) : (b.set other value').set name value = (b.set name value).set other value' := by
  induction b with
  | nil => cases h
  | cons p rest ih =>
    obtain ⟨n, v⟩ := p
    by_cases hn : n = name
    · subst hn
      simp [set, Ne.symm hne]
    · have hrest : name ∈ rest.map Prod.fst := by simpa [Ne.symm hn] using h
      by_cases ho : n = other
      · subst ho
        simp [set, hn]
      · simp [set, hn, ho, ih hrest]

theorem mem_keys_set (b : Bindings) (name value other : String) :
    other ∈ (b.set name value).map Prod.fst ↔ other = name ∨ other ∈ b.map Prod.fst := by
  induction b with
  | nil => simp [set]
  | cons p rest ih =>
    obtain ⟨n, v⟩ := p
    by_cases hn : n = name
    · subst hn
      simp [set]
    · simp only [set, hn, if_false, List.map_cons, List.mem_cons, ih]
      exact or_left_comm

theorem nodup_keys_set {b : Bindings} (h : (b.map Prod.fst).Nodup) (name value : String) :
    ((b.set name value).map Prod.fst).Nodup := by
  induction b with
  | nil => simp [set]
  | cons p rest ih =>
    obtain ⟨n, v⟩ := p
    obtain ⟨hfree, hrest⟩ := List.nodup_cons.1 h
    by_cases hn : n = name
    · subst hn
      simpa [set] using h
    · rw [set, if_neg hn, List.map_cons, List.nodup_cons, mem_keys_set, not_or]
      exact ⟨⟨hn, hfree⟩, ih hrest⟩

theorem nodup_keys_setAll {b : Bindings} (h : (b.map Prod.fst).Nodup) (entries : List (String × String)) :
    ((b.setAll entries).map Prod.fst).Nodup := by
  induction entries generalizing b with
  | nil => exact h
  | cons p entries ih => exact ih (nodup_keys_set h p.1 p.2)

theorem set_setAll {b : Bindings} {entries : List (String × String)} {name : String}
    (hbound : name ∈ b.map Prod.fst) (h : ∀ p ∈ entries, p.1 ≠ name) (value : String) :
    (b.setAll entries).set name value = (b.set name value).setAll entries := by
  induction entries generalizing b with
  | nil => rfl
  | cons p entries ih =>
    obtain ⟨hp, hrest⟩ := List.forall_mem_cons.1 h
    have hbound' : name ∈ (b.set p.1 p.2).map Prod.fst := (mem_keys_set b p.1 p.2 name).2 (.inr hbound)
    rw [setAll_cons, ih hbound' hrest, set_comm hbound hp, setAll_cons]

/-- To bind one more name first among the others is to bind it after them. -/
theorem setAll_set {a : Bindings} (h : (a.map Prod.fst).Nodup) (b : Bindings) (name value : String) :
    b.setAll (a.set name value) = (b.setAll a).set name value := by
  induction a generalizing b with
  | nil => rfl
  | cons p rest ih =>
    obtain ⟨n, v⟩ := p
    obtain ⟨hfree, hrest⟩ := List.nodup_cons.1 h
    by_cases hn : n = name
    · subst hn
      have hothers : ∀ p ∈ rest, p.1 ≠ n := fun p hp => ne_of_mem_of_not_mem (List.mem_map_of_mem hp) hfree
      have hbound : n ∈ (b.set n v).map Prod.fst := (mem_keys_set b n v n).2 (.inl rfl)
      rw [set, if_pos rfl, setAll_cons, setAll_cons, set_setAll hbound hothers, set_set]
    · rw [set, if_neg hn, setAll_cons, setAll_cons, ih hrest]

/-- Names may be bound among themselves first. -/
theorem setAll_setAll (b : Bindings) (entries : List (String × String)) :
    b.setAll (setAll [] entries) = b.setAll entries := by
  induction entries using List.reverseRecOn with
  | nil => rfl
  | append_singleton entries p ih =>
    rw [setAll_append, setAll_cons, setAll_nil, setAll_set (nodup_keys_setAll (b := []) List.nodup_nil entries), ih,
      setAll_append, setAll_cons, setAll_nil]

end Expr.Bindings

namespace Config

open Stencil.Expr (Bindings)

/-! ### Specs -/

/-- Before the first equals sign of `spec` stands `before`, and behind it `value`. -/
def SplitsAt (spec before value : String) : Prop := spec = before ++ "=" ++ value ∧ '=' ∉ before.toList

/-- The spec has an equals sign, and what is before the first one is not blank. -/
def IsSpec (spec : String) : Prop :=
  ∃ before value, SplitsAt spec before value ∧ ∃ c ∈ before.toList, Text.isBlank c = false

/-- The spec gives `name` the value behind its first equals sign. -/
def Spells (spec name value : String) : Prop := ∃ before, SplitsAt spec before value ∧ Text.strip before = name

/-- The error about a bad spec. -/
def misspelt (spec : String) : Error :=
  if '=' ∈ spec.toList then .bindingWithoutName spec else .bindingWithoutValue spec

theorem message_misspelt (spec : String) :
    ∃ why, (misspelt spec).message = "Invalid variable format '" ++ spec ++ why := by
  unfold misspelt
  split
  · exact ⟨"'. Variable name is empty", rfl⟩
  · exact ⟨"'. Expected 'NAME=VALUE'", rfl⟩

theorem SplitsAt.toList {spec before value : String} (h : SplitsAt spec before value) :
    spec.toList = before.toList ++ '=' :: value.toList := by
  rw [h.1]
  simp

theorem SplitsAt.takeWhile {spec before value : String} (h : SplitsAt spec before value) :
    spec.toList.takeWhile (· ≠ '=') = before.toList := by
  rw [h.toList, List.takeWhile_append_of_pos fun c hc => by simpa using ne_of_mem_of_not_mem hc h.2]
  simp

theorem SplitsAt.dropWhile {spec before value : String} (h : SplitsAt spec before value) :
    spec.toList.dropWhile (· ≠ '=') = '=' :: value.toList := by
  rw [h.toList, List.dropWhile_append_of_pos fun c hc => by simpa using ne_of_mem_of_not_mem hc h.2]
  simp

/-- There is only one first equals sign. -/
theorem SplitsAt.unique {spec before before' value value' : String} (h : SplitsAt spec before value)
    (h' : SplitsAt spec before' value') : before = before' ∧ value = value' := by
  have hbefore : before.toList = before'.toList := h.takeWhile.symm.trans h'.takeWhile
  have hvalue : '=' :: value.toList = '=' :: value'.toList := h.dropWhile.symm.trans h'.dropWhile
  exact ⟨String.toList_inj.1 hbefore, String.toList_inj.1 (List.cons.inj hvalue).2⟩

theorem strip_eq_empty_iff (s : String) : Text.strip s = "" ↔ ∀ c ∈ s.toList, Text.isBlank c = true := by
  rw [← Text.trim_eq_nil_iff, Text.strip, ← String.toList_inj, String.toList_ofList]
  rfl

theorem readBinding_of_no_sign {spec : String} (h : '=' ∉ spec.toList) :
    readBinding spec = .error (.bindingWithoutValue spec) := by
  have hrest : spec.toList.dropWhile (· ≠ '=') = [] := by
    rw [List.dropWhile_eq_nil_iff]
    intro c hc
    simpa using ne_of_mem_of_not_mem hc h
  unfold readBinding
  simp only [hrest]

theorem readBinding_of_splitsAt {spec before value : String} (h : SplitsAt spec before value) :
    readBinding spec =
      if Text.strip before = "" then .error (.bindingWithoutName spec) else .ok (Text.strip before, value) := by
  have hfront : spec.toList.takeWhile (· ≠ '=') = before.toList := h.takeWhile
  have hrest : spec.toList.dropWhile (· ≠ '=') = '=' :: value.toList := h.dropWhile
  unfold readBinding
  simp only [hfront, hrest, String.ofList_toList]

/-- A spec has a first equals sign, or none. -/
theorem splitsAt_or_no_sign (spec : String) :
    (∃ before value, SplitsAt spec before value) ∨ '=' ∉ spec.toList := by
  by_cases h : '=' ∈ spec.toList
  · obtain ⟨before, value, hsplit, hbefore⟩ := List.eq_append_cons_of_mem h
    have hspec : spec = String.ofList before ++ "=" ++ String.ofList value := String.toList_inj.1 (by simp [hsplit])
    exact .inl ⟨String.ofList before, String.ofList value, hspec, by simpa using hbefore⟩
  · exact .inr h

/-- What is made of a spec. -/
inductive Read (spec : String) : Except Error (String × String) → Prop
  | ok {name value : String} (good : IsSpec spec) (spells : Spells spec name value) : Read spec (.ok (name, value))
  | error (bad : ¬ IsSpec spec) : Read spec (.error (misspelt spec))

theorem read_readBinding (spec : String) : Read spec (readBinding spec) := by
  obtain ⟨before, value, hat⟩ | hnone := splitsAt_or_no_sign spec
  · have hsign : misspelt spec = .bindingWithoutName spec := if_pos (by simp [hat.toList])
    rw [readBinding_of_splitsAt hat, ← hsign]
    split
    · rename_i hname
      refine .error ?_
      rintro ⟨before', value', hat', c, hc, hblank⟩
      obtain ⟨rfl, -⟩ := hat'.unique hat
      rw [(strip_eq_empty_iff _).1 hname c hc] at hblank
      cases hblank
    · rename_i hname
      rw [strip_eq_empty_iff] at hname
      push Not at hname
      exact .ok ⟨before, value, hat, by simpa using hname⟩ ⟨before, hat, rfl⟩
  · have hsign : misspelt spec = .bindingWithoutValue spec := if_neg hnone
    rw [readBinding_of_no_sign hnone, ← hsign]
    refine .error ?_
    rintro ⟨before, value, hat, -⟩
    exact hnone (by simp [hat.toList])

/-! ### Lists of specs -/

/-- The first bad spec of a list. -/
def FirstBad (specs : List String) (spec : String) : Prop :=
  ∃ before after, specs = before ++ spec :: after ∧ (∀ s ∈ before, IsSpec s) ∧ ¬ IsSpec spec

/-- What is made of a list of specs: the bindings that they spell, or the error about the first bad one. -/
inductive ReadAll (specs : List String) : Except Error (List (String × String)) → Prop
  | ok {entries : List (String × String)} (good : ∀ s ∈ specs, IsSpec s)
      (spells : List.Forall₂ (fun s p => Spells s p.1 p.2) specs entries) : ReadAll specs (.ok entries)
  | error {spec : String} (first : FirstBad specs spec) : ReadAll specs (.error (misspelt spec))

theorem readAll_mapM (specs : List String) : ReadAll specs (specs.mapM readBinding) := by
  induction specs with
  | nil => exact .ok (by simp) .nil
  | cons spec specs ih =>
    rw [List.mapM_cons]
    have hread := read_readBinding spec
    generalize readBinding spec = r at hread
    cases hread with
    | error bad => exact .error ⟨[], specs, rfl, by simp, bad⟩
    | ok good spells =>
      generalize specs.mapM readBinding = r at ih
      cases ih with
      | ok goods others => exact .ok (List.forall_mem_cons.2 ⟨good, goods⟩) (.cons spells others)
      | error first =>
        obtain ⟨before, after, rfl, goods, bad⟩ := first
        exact .error ⟨spec :: before, after, rfl, List.forall_mem_cons.2 ⟨good, goods⟩, bad⟩

theorem FirstBad.not_forall {specs : List String} {spec : String} (h : FirstBad specs spec) :
    ¬ ∀ s ∈ specs, IsSpec s := by
  obtain ⟨before, after, rfl, -, bad⟩ := h
  intro good
  exact bad (good spec (by simp))

theorem readBindings_eq (specs : List String) :
    readBindings specs = (specs.mapM readBinding).map (Bindings.setAll []) := by
  suffices ∀ b : Bindings, specs.foldlM (fun b spec => do
      let p ← readBinding spec
      return b.set p.1 p.2) b = (specs.mapM readBinding).map b.setAll from this []
  intro b
  induction specs generalizing b with
  | nil => rfl
  | cons spec specs ih =>
    rw [List.foldlM_cons, List.mapM_cons]
    cases readBinding spec with
    | error e => rfl
    | ok p =>
      refine (ih (b.set p.1 p.2)).trans ?_
      cases specs.mapM readBinding <;> rfl

/-! ### Bindings in place of others -/

theorem Spells.unique {spec name name' value value' : String} (h : Spells spec name value)
    (h' : Spells spec name' value') : name = name' ∧ value = value' := by
  obtain ⟨before, hat, rfl⟩ := h
  obtain ⟨before', hat', rfl⟩ := h'
  obtain ⟨rfl, rfl⟩ := hat.unique hat'
  exact ⟨rfl, rfl⟩

section

variable {specs : List String} {entries : List (String × String)}
  (h : List.Forall₂ (fun s p => Spells s p.1 p.2) specs entries)

include h

theorem get?_setAll_of_not_spelled (b : Bindings) {name : String} (hnone : ∀ s ∈ specs, ∀ v, ¬ Spells s name v) :
    (b.setAll entries).get? name = b.get? name := by
  refine b.get?_setAll_of_forall_ne ?_
  induction h with
  | nil => simp
  | @cons s p specs entries spells others ih =>
    obtain ⟨hs, hrest⟩ := List.forall_mem_cons.1 hnone
    exact List.forall_mem_cons.2 ⟨fun hp => hs p.2 (hp ▸ spells), ih hrest⟩

/-- The last spec of a name counts. -/
theorem get?_setAll_of_spelled (b : Bindings) {before after : List String} {spec name value : String}
    (hspecs : specs = before ++ spec :: after) (hspells : Spells spec name value)
    (hlast : ∀ s ∈ after, ∀ v, ¬ Spells s name v) : (b.setAll entries).get? name = some value := by
  induction before generalizing b specs entries with
  | nil =>
    subst hspecs
    cases h with
    | @cons _ p _ rest spells others =>
      obtain ⟨rfl, rfl⟩ := hspells.unique spells
      rw [Bindings.setAll_cons, get?_setAll_of_not_spelled others _ hlast, Bindings.get?_set_self]
  | cons s before ih =>
    subst hspecs
    cases h with
    | cons spells others => exact ih others _ rfl

end

section

variable (c : Config) (template output : Option Path)

/-- What a configuration becomes with bindings that others spell. -/
theorem override_setAll (entries : List (String × String)) :
    c.override template output (Bindings.setAll [] entries)
      = { c with
          template := template <|> c.template
          output := output <|> c.output
          bindings := c.bindings.setAll entries } := by
  unfold override
  congr 1
  exact c.bindings.setAll_setAll entries

theorem override_override (entries others : List (String × String)) :
    (c.override template output (Bindings.setAll [] entries)).override none none (Bindings.setAll [] others)
      = c.override template output (Bindings.setAll [] (entries ++ others)) := by
  rw [override_setAll, override_setAll, override_setAll, Bindings.setAll_append]
  rfl

theorem map_override_readBindings (specs : List String) :
    (readBindings specs).map (c.override template output)
      = (specs.mapM readBinding).map fun entries => c.override template output (Bindings.setAll [] entries) := by
  rw [readBindings_eq]
  cases specs.mapM readBinding <;> rfl

/-- More specs after others do the same as all of them at once. -/
theorem override_readBindings_append (specs more : List String) :
    (do (readBindings more).map ((← (readBindings specs).map (c.override template output)).override none none))
      = (readBindings (specs ++ more)).map (c.override template output) := by
  simp only [map_override_readBindings, List.mapM_append]
  cases specs.mapM readBinding with
  | error e => rfl
  | ok entries =>
    cases more.mapM readBinding with
    | error e => rfl
    | ok others => exact congrArg Except.ok (c.override_override template output entries others)

end

/-- The specs of a command line are taken over just if each has an equals sign and something before it that is
not blank; else the error is about the first one that has not. Taken over, a name is bound to what follows the
first equals sign in the last spec with that name, or else to what the configuration binds it to, and all but
the bindings and the given paths stays. More specs after that do the same as all of them at once. -/
theorem override_readBindings (c : Config) (template output : Option Path) (specs : List String) :
    let taken := (readBindings specs).map (c.override template output)
    ((∃ c', taken = .ok c') ↔ ∀ spec ∈ specs, IsSpec spec) ∧
      (∀ e, taken = .error e → ∃ spec, FirstBad specs spec ∧ e = misspelt spec ∧
        ∃ why, e.message = "Invalid variable format '" ++ spec ++ why) ∧
      (∀ c', taken = .ok c' →
        (∀ before spec after name value, specs = before ++ spec :: after → Spells spec name value →
          (∀ s ∈ after, ∀ v, ¬ Spells s name v) → c'.bindings.get? name = some value) ∧
        (∀ name, (∀ s ∈ specs, ∀ v, ¬ Spells s name v) → c'.bindings.get? name = c.bindings.get? name) ∧
        c'.limit = c.limit ∧ c'.root = c.root) ∧
      ∀ more : List String, (do (readBindings more).map ((← taken).override none none))
        = (readBindings (specs ++ more)).map (c.override template output) := by
  intro taken
  have htaken : taken = (specs.mapM readBinding).map fun entries =>
      c.override template output (Bindings.setAll [] entries) := c.map_override_readBindings template output specs
  have hmore := c.override_readBindings_append template output specs
  have hread := readAll_mapM specs
  generalize specs.mapM readBinding = r at hread htaken
  cases hread with
  | @ok entries good spells =>
    refine ⟨iff_of_true ⟨_, htaken⟩ good, fun e he => ?_, fun c' hc' => ?_, hmore⟩
    · rw [htaken] at he
      cases he
    · rw [htaken] at hc'
      cases hc'
      dsimp only
      rw [override_setAll]
      exact ⟨fun before spec after name value hspecs => get?_setAll_of_spelled spells _ hspecs,
        fun name => get?_setAll_of_not_spelled spells _, rfl, rfl⟩
  | @error spec first =>
    refine ⟨iff_of_false ?_ first.not_forall, fun e he => ?_, fun c' hc' => ?_, hmore⟩
    · rintro ⟨c', hc'⟩
      rw [htaken] at hc'
      cases hc'
    · rw [htaken] at he
      cases he
      exact ⟨spec, first, rfl, message_misspelt spec⟩
    · rw [htaken] at hc'
      cases hc'

/-- One name twice, once with blanks around it, and a value with an equals sign. -/
theorem override_readBindings_repeated :
    let c : Config := ⟨none, none, [("x", "0"), ("z", "9")], 7, ⟨1, []⟩⟩
    let specs := [" x =1", "y= a=b", "x=2"]
    (∀ spec ∈ specs, IsSpec spec) ∧ ∃ c', (readBindings specs).map (c.override none none) = .ok c' ∧
      c'.bindings.get? "x" = some "2" ∧ c'.bindings.get? "y" = some " a=b" ∧ c'.bindings.get? "z" = some "9" ∧
      c'.limit = 7 := by
  intro c specs
  have hx : Spells " x =1" "x" "1" := ⟨" x ", ⟨by decide, by decide⟩, by decide⟩
  have hy : Spells "y= a=b" "y" " a=b" := ⟨"y", ⟨by decide, by decide⟩, by decide⟩
  have hx' : Spells "x=2" "x" "2" := ⟨"x", ⟨by decide, by decide⟩, by decide⟩
  have good : ∀ spec ∈ specs, IsSpec spec := by
    simp only [specs, List.forall_mem_cons]
    refine ⟨⟨" x ", "1", ⟨by decide, by decide⟩, 'x', by decide, by decide⟩,
      ⟨"y", " a=b", ⟨by decide, by decide⟩, 'y', by decide, by decide⟩,
      ⟨"x", "2", ⟨by decide, by decide⟩, 'x', by decide, by decide⟩, by simp⟩
  have hother {spec name value : String} (h : Spells spec name value) {other : String} (hne : name ≠ other)
      (v : String) : ¬ Spells spec other v := fun h' => hne (h.unique h').1
  obtain ⟨haccepted, -, hbound, -⟩ := override_readBindings c none none specs
  obtain ⟨c', hc'⟩ := haccepted.2 good
  obtain ⟨hlast, hkept, hlimit, -⟩ := hbound c' hc'
  refine ⟨good, c', hc', ?_, ?_, ?_, hlimit⟩
  · exact hlast [" x =1", "y= a=b"] "x=2" [] "x" "2" rfl hx' (by simp)
  · exact hlast [" x =1"] "y= a=b" ["x=2"] "y" " a=b" rfl hy (by simpa using hother hx' (by decide))
  · refine (hkept "z" ?_).trans rfl
    simp only [specs, List.forall_mem_cons]
    exact ⟨hother hx (by decide), hother hy (by decide), hother hx' (by decide), by simp⟩

end Config

end Stencil
