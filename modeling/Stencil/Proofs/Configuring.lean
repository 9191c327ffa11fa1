import Mathlib
import Stencil.Proofs.Misuse
import Stencil.Proofs.Sorting

/-!
# Exact configurations

A configuration is read from data of any kind. Main statement: it is accepted just if five requirements are
met, an error is about the first one that is not, and what is accepted can be rendered without the errors that
blame a program.
-/
namespace Stencil.Config

open Render (outcome)
open Sorting (Clash Rising)
open Yaml (Data)

/-! ### Requirements -/

def IsText (d : Data) : Prop := ∃ s, d = .text s

/-- What is asked of the entries of a configuration. -/
inductive Requirement where
  | keys
  | template
  | output
  | bindings
  | limit
  deriving DecidableEq, Repr

namespace Requirement

/-- The order in which the requirements are checked. -/
def order : List Requirement := [keys, template, output, bindings, limit]

/-- Fields that may be left out, or left empty. -/
inductive TextOrNone : Option Data → Prop
  | absent : TextOrNone none
  | null : TextOrNone (some .null)
  | text (s : String) : TextOrNone (some (.text s))

/-- Mappings of texts to texts, and all that is empty in some way. -/
inductive TextsOrNone : Option Data → Prop
  | absent : TextsOrNone none
  | empty {d : Data} (h : d.isEmpty = true) : TextsOrNone (some d)
  | mapping {d : Data} {entries : List (Data × Data)} (spelled : d.entries? = some entries)
      (h : ∀ e ∈ entries, IsText e.1 ∧ IsText e.2) : TextsOrNone (some d)

/-- Integers above zero. -/
inductive PositiveOrNone : Option Data → Prop
  | absent : PositiveOrNone none
  | int {n : Int} (h : 1 ≤ n) : PositiveOrNone (some (.int n))

def Met (entries : List (Data × Data)) : Requirement → Prop
  | keys => ∀ e ∈ entries, ∃ name ∈ allowedKeys, e.1 = .text name
  | template => TextOrNone (Data.find? "template" entries)
  | output => TextOrNone (Data.find? "output" entries)
  | bindings => TextsOrNone (Data.find? "variables" entries)
  | limit => PositiveOrNone (Data.find? "max_depth" entries)

/-- The requirement is violated, and those before it are met. -/
def FirstViolated (entries : List (Data × Data)) (r : Requirement) : Prop :=
  ∃ earlier later, order = earlier ++ r :: later ∧ (∀ r' ∈ earlier, r'.Met entries) ∧ ¬ r.Met entries

end Requirement

open Requirement

/-- The keys that no configuration has. -/
def extraKeys (entries : List (Data × Data)) : List Data := (entries.map (·.1)).filter (!isAllowed ·)

/-- What is reported where a requirement is violated, and the data that the report quotes. -/
inductive Reports (entries : List (Data × Data)) : Requirement → Option Data → ConfigFlaw → Prop
  | keys {sorted : List Data} (all : sorted.Perm (extraKeys entries))
      (rising : (∀ e ∈ entries, IsText e.1) → Rising Data.less sorted) :
      Reports entries .keys (some (.list sorted)) (.unexpectedKeys (Data.list sorted).literal)
  | template {d : Data} (found : Data.find? "template" entries = some d) :
      Reports entries .template none (.notText "template" d.typeName)
  | output {d : Data} (found : Data.find? "output" entries = some d) :
      Reports entries .output none (.notText "output" d.typeName)
  | notMapping {d : Data} (found : Data.find? "variables" entries = some d)
      (other : d.entries? = none) :
      Reports entries .bindings none (.variablesNotMapping d.typeName)
  | badBinding {d : Data} {before after : List (Data × Data)} {name value : Data}
      (found : Data.find? "variables" entries = some d)
      (spelled : d.entries? = some (before ++ (name, value) :: after))
      (texts : ∀ e ∈ before, IsText e.1 ∧ IsText e.2) (bad : ¬ (IsText name ∧ IsText value)) :
      Reports entries .bindings (some name) (.badVariable name.plainText value.typeName)
  | limit {d : Data} (found : Data.find? "max_depth" entries = some d) :
      Reports entries .limit (some d) (.badDepth d.literal)

/-- A report quotes data only if it can be shown. -/
def refusal (quoted : Option Data) (flaw : ConfigFlaw) : Error :=
  if quoted.all Data.hasText then .config flaw else .badData .badValue Data.tooLongToShow

theorem showing_eq {α : Type} (d : Data) (flaw : Data → ConfigFlaw) :
    (showing d flaw : Except Error α) = .error (refusal (some d) (flaw d)) := rfl

/-- Only data that cannot be shown keep a flaw from being reported. -/
theorem refusal_cases (quoted : Option Data) (flaw : ConfigFlaw) :
    refusal quoted flaw = .config flaw ∨ ∃ d, quoted = some d ∧ d.hasText = false ∧
      refusal quoted flaw = .badData .badValue Data.tooLongToShow := by
  cases quoted with
  | none => exact .inl rfl
  | some d =>
    rw [refusal, Option.all_some]
    cases hshown : d.hasText with
    | true => exact .inl rfl
    | false => exact .inr ⟨d, rfl, hshown, rfl⟩

/-- The errors for a violated requirement. Keys that cannot be sorted cannot be reported either. -/
inductive Refuses (entries : List (Data × Data)) : Requirement → Error → Prop
  | report {r : Requirement} {quoted : Option Data} {flaw : ConfigFlaw} (h : Reports entries r quoted flaw) :
      Refuses entries r (refusal quoted flaw)
  | incomparable {reason : Incomparable} (clash : Clash Data.less (extraKeys entries) reason) :
      Refuses entries .keys (.incomparable reason)

/-- The check of a requirement succeeds just if it is met. -/
inductive Checks (entries : List (Data × Data)) (r : Requirement) {α : Type} : Except Error α → Prop
  | met {a : α} (h : r.Met entries) : Checks entries r (.ok a)
  | violated {e : Error} (h : ¬ r.Met entries) (refused : Refuses entries r e) : Checks entries r (.error e)

/-! ### Checks -/

variable {entries : List (Data × Data)}

theorem isAllowed_iff (d : Data) : isAllowed d = true ↔ ∃ name ∈ allowedKeys, d = .text name := by
  cases d <;> simp [isAllowed]

theorem met_keys_iff : Requirement.keys.Met entries ↔ extraKeys entries = [] := by
  simp only [Met, extraKeys, List.filter_eq_nil_iff, List.forall_mem_map, Bool.not_eq_true', Bool.not_eq_false,
    isAllowed_iff]

/-- Texts are ordered by their characters. -/
theorem orders_texts : Sorting.Orders Data.less IsText where
  asymm := by
    rintro _ _ ⟨s, rfl⟩ ⟨t, rfl⟩ h
    simp only [Data.less, Except.ok.injEq, decide_eq_true_eq, decide_eq_false_iff_not] at h ⊢
    exact lt_asymm h
  trans := by
    rintro _ _ _ ⟨s, rfl⟩ ⟨t, rfl⟩ ⟨u, rfl⟩ h h'
    simp only [Data.less, Except.ok.injEq, decide_eq_false_iff_not, not_lt] at h h' ⊢
    exact h.trans h'

theorem isText_of_mem_extraKeys (names : ∀ e ∈ entries, IsText e.1) {d : Data} (h : d ∈ extraKeys entries) :
    IsText d := by
  obtain ⟨e, he, rfl⟩ := List.mem_map.1 (List.mem_filter.1 h).1
  exact names e he

/-- Texts can always be compared. -/
theorem not_clash_of_texts (names : ∀ e ∈ entries, IsText e.1) {reason : Incomparable} :
    ¬ Clash Data.less (extraKeys entries) reason := by
  rintro ⟨a, ha, b, hb, hless⟩
  obtain ⟨s, rfl⟩ := isText_of_mem_extraKeys names ha
  obtain ⟨t, rfl⟩ := isText_of_mem_extraKeys names hb
  cases hless

theorem checks_keys : Checks entries .keys (checkKeys entries) := by
  unfold checkKeys
  split
  · rename_i hnone
    exact .met (met_keys_iff.2 hnone)
  · rename_i extra hextra
    have hviolated : ¬ Requirement.keys.Met entries := fun hmet => hextra (met_keys_iff.1 hmet)
    split
    · rename_i sorted hsort
      have rising (names : ∀ e ∈ entries, IsText e.1) : Rising Data.less sorted :=
        orders_texts.rising_of_sort (fun d hd => isText_of_mem_extraKeys names hd) hsort
      exact .violated hviolated (.report (.keys (Sorting.perm_of_sort hsort) rising))
    · rename_i reason hsort
      exact .violated hviolated (.incomparable (Sorting.clash_of_sort hsort))

/-- The two fields for paths are checked alike. -/
theorem checks_textField {name : String} {r : Requirement}
    (hmet : r.Met entries ↔ TextOrNone (Data.find? name entries))
    (hreports : ∀ d, Data.find? name entries = some d → Reports entries r none (.notText name d.typeName)) :
    Checks entries r (textField entries name) := by
  unfold textField
  split
  · rename_i hfound
    exact .met (hmet.2 (hfound ▸ .absent))
  · rename_i hfound
    exact .met (hmet.2 (hfound ▸ .null))
  · rename_i s hfound
    exact .met (hmet.2 (hfound ▸ .text s))
  · rename_i d hnull htext hfound
    refine .violated (fun h => ?_) (.report (hreports d hfound))
    rw [hmet, hfound] at h
    cases h with
    | null => exact hnull rfl
    | text s => exact htext s rfl

/-- Bindings are checked one after the other. -/
theorem textBindings_cases (done : Expr.Bindings) (entries : List (Data × Data)) :
    (∃ b, textBindings done entries = .ok b) ∧ (∀ e ∈ entries, IsText e.1 ∧ IsText e.2) ∨
      ∃ before name value after, entries = before ++ (name, value) :: after ∧
        (∀ e ∈ before, IsText e.1 ∧ IsText e.2) ∧ ¬ (IsText name ∧ IsText value) ∧
        textBindings done entries = .error (refusal (some name) (.badVariable name.plainText value.typeName)) := by
  fun_induction textBindings done entries with
  | case1 done => exact .inl ⟨⟨done, rfl⟩, by simp⟩
  | case2 done name value rest ih =>
    obtain ⟨hok, htexts⟩ | ⟨before, name', value', after, rfl, htexts, hbad, herror⟩ := ih
    · exact .inl ⟨hok, List.forall_mem_cons.2 ⟨⟨⟨name, rfl⟩, ⟨value, rfl⟩⟩, htexts⟩⟩
    · refine .inr ⟨(.text name, .text value) :: before, name', value', after, rfl, ?_, hbad, herror⟩
      exact List.forall_mem_cons.2 ⟨⟨⟨name, rfl⟩, ⟨value, rfl⟩⟩, htexts⟩
  | case3 done name value rest hother =>
    refine .inr ⟨[], name, value, rest, rfl, by simp, ?_, rfl⟩
    rintro ⟨⟨s, rfl⟩, ⟨t, rfl⟩⟩
    exact hother s t rfl rfl

theorem checks_variablesField : Checks entries .bindings (variablesField entries) := by
  unfold variablesField
  split
  · rename_i hfound
    exact .met (show TextsOrNone _ from hfound ▸ .absent)
  · rename_i d hfound
    split
    · rename_i entries' hspelled
      obtain ⟨⟨b, hok⟩, htexts⟩ | ⟨before, name, value, after, rfl, htexts, hbad, herror⟩ :=
        textBindings_cases [] entries'
      · rw [hok]
        exact .met (show TextsOrNone _ from hfound ▸ .mapping hspelled htexts)
      · rw [herror]
        refine .violated (fun h => ?_) (.report (.badBinding hfound hspelled htexts hbad))
        rw [Met, hfound] at h
        cases h with
        | empty h =>
          rw [Data.isEmpty_of_entries? hspelled] at h
          simp at h
        | mapping hspelled' h =>
          cases hspelled.symm.trans hspelled'
          exact hbad (h (name, value) (by simp))
    · rename_i hother
      split
      · rename_i hempty
        exact .met (show TextsOrNone _ from hfound ▸ .empty hempty)
      · rename_i hempty
        refine .violated (fun h => ?_) (.report (.notMapping hfound hother))
        rw [Met, hfound] at h
        cases h with
        | empty h => exact hempty h
        | mapping hspelled h =>
          rw [hother] at hspelled
          cases hspelled

theorem checks_limitField : Checks entries .limit (limitField entries) := by
  unfold limitField
  split
  · rename_i hfound
    exact .met (show PositiveOrNone _ from hfound ▸ .absent)
  · rename_i n hfound
    split
    · rename_i hn
      rw [showing_eq]
      refine .violated (fun h => ?_) (.report (.limit hfound))
      rw [Met, hfound] at h
      cases h with
      | int h => omega
    · rename_i hn
      exact .met (show PositiveOrNone _ from hfound ▸ .int (by omega))
  · rename_i d hint hfound
    rw [showing_eq]
    refine .violated (fun h => ?_) (.report (.limit hfound))
    rw [Met, hfound] at h
    cases h with
    | int h => exact hint _ rfl

theorem one_le_of_limitField {limit : Nat} (h : limitField entries = .ok limit) : 1 ≤ limit := by
  unfold limitField at h
  split at h
  · cases h
    decide
  · split at h
    · cases h
    · cases h
      omega
  · cases h

/-! ### The whole configuration -/

/-- What the checks of all requirements come to. -/
theorem ofEntries_cases (entries : List (Data × Data)) (root : Path) :
    ((∀ r, Requirement.Met entries r) ∧ ∃ c, ofEntries entries root = .ok c ∧ 1 ≤ c.limit) ∨
      ∃ r e, FirstViolated entries r ∧ Refuses entries r e ∧ ofEntries entries root = .error e := by
  have hkeys : Checks entries .keys (checkKeys entries) := checks_keys
  have htemplate : Checks entries .template (textField entries "template") := checks_textField .rfl fun _ => .template
  have houtput : Checks entries .output (textField entries "output") := checks_textField .rfl fun _ => .output
  have hbindings : Checks entries .bindings (variablesField entries) := checks_variablesField
  have hlimit : Checks entries .limit (limitField entries) := checks_limitField
  unfold ofEntries
  generalize checkKeys entries = checked at hkeys
  cases hkeys with
  | violated hn refused => exact .inr ⟨.keys, _, ⟨[], _, rfl, by simp, hn⟩, refused, rfl⟩
  | met hkeys =>
  generalize textField entries "template" = template at htemplate
  cases htemplate with
  | violated hn refused => exact .inr ⟨.template, _, ⟨[.keys], _, rfl, by simp [hkeys], hn⟩, refused, rfl⟩
  | met htemplate =>
  generalize textField entries "output" = output at houtput
  cases houtput with
  | violated hn refused =>
    exact .inr ⟨.output, _, ⟨[.keys, .template], _, rfl, by simp [hkeys, htemplate], hn⟩, refused, rfl⟩
  | met houtput =>
  generalize variablesField entries = bindings at hbindings
  cases hbindings with
  | violated hn refused =>
    exact .inr ⟨.bindings, _, ⟨[.keys, .template, .output], _, rfl, by simp [hkeys, htemplate, houtput], hn⟩,
      refused, rfl⟩
  | met hbindings =>
  have hpositive {n : Nat} (h : limitField entries = .ok n) : 1 ≤ n := one_le_of_limitField h
  generalize limitField entries = limit at hlimit hpositive
  cases hlimit with
  | violated hn refused =>
    exact .inr ⟨.limit, _, ⟨[.keys, .template, .output, .bindings], _, rfl,
      by simp [hkeys, htemplate, houtput, hbindings], hn⟩, refused, rfl⟩
  | met hlimit =>
    refine .inl ⟨fun r => ?_, _, rfl, hpositive rfl⟩
    cases r <;> assumption

theorem not_firstViolated {entries : List (Data × Data)} {r : Requirement} (h : ∀ r, Requirement.Met entries r) :
    ¬ FirstViolated entries r := by
  rintro ⟨-, -, -, -, hn⟩
  exact hn (h r)

/-- A limit below one, with nothing else. -/
theorem refused_limit {n : Int} (hn : n < 1) (root : Path) :
    FirstViolated [(.text "max_depth", .int n)] .limit ∧
      ofEntries [(.text "max_depth", .int n)] root
        = .error (refusal (some (.int n)) (.badDepth (Data.int n).literal)) := by
  constructor
  · refine ⟨[.keys, .template, .output, .bindings], [], rfl, ?_, ?_⟩
    · have hkeys : Requirement.keys.Met [(.text "max_depth", .int n)] := met_keys_iff.2 rfl
      have htemplate : Requirement.template.Met [(.text "max_depth", .int n)] := .absent
      have houtput : Requirement.output.Met [(.text "max_depth", .int n)] := .absent
      have hbindings : Requirement.bindings.Met [(.text "max_depth", .int n)] := .absent
      simp [hkeys, htemplate, houtput, hbindings]
    · intro h
      have hfound : PositiveOrNone (some (.int n)) := h
      cases hfound with
      | int h => omega
  · have hlimit : limitField [(.text "max_depth", .int n)]
        = .error (refusal (some (.int n)) (.badDepth (Data.int n).literal)) := by
      change (if n < 1 then showing (.int n) fun d => .badDepth d.literal else .ok n.toNat) = _
      rw [if_pos hn, showing_eq]
    have hchecked : ofEntries [(.text "max_depth", .int n)] root = (do
        let limit ← limitField [(.text "max_depth", .int n)]
        return ⟨none, none, [], limit, root⟩) := rfl
    rw [hchecked, hlimit]
    rfl

theorem hasText_neg_of_long {n : Nat} (h : ¬ n < Nat.pow 10 4300) : (Data.int (-n)).hasText = false := by
  rw [Data.hasText, Int.natAbs_neg, Int.natAbs_natCast]
  exact decide_eq_false h

end Stencil.Config
