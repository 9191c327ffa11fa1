import Mathlib
import Stencil.Proofs.Configuring
import Stencil.Proofs.Loading
import Stencil.Yaml.Document

/-!
# Configuration files

A configuration file is looked for, read, decoded, taken for data and checked, and each stage has failures of its
own. Main statement: what comes out is a configuration or an error about it, but for five errors that no stage
turns into one.
-/
namespace Stencil

open Render (outcome outcome_bind_of_failure outcome_bind_of_ok)
open Text (Bytes)
open Yaml (Data Reader)

namespace Disk

variable (d : Disk)

/-- The path of the configuration file, as it is asked for or else in the root. -/
def configPath (root : Path) (asked : Option Path) : Path := asked.getD (root.join (.ofString Workspace.configName))

/-- Where a configuration is looked for. -/
def configPlace (root : Path) (asked : Option Path) : Except Error Path := d.resolve (configPath root asked)

/-- The bytes of the configuration file, if there is one. -/
def configBytes? (root : Path) (asked : Option Path) : Option Bytes :=
  match d.configPlace root asked with
  | .error _ => none
  | .ok place =>
    match d.find place with
    | .ok found => found
    | .error _ => none

/-- The errors of a configuration file that are not about configurations. -/
inductive Escapes (reader : Reader) (d : Disk) (root : Path) (asked : Option Path) : Error → Prop
  /-- The links of a path lead back to themselves, or too many of them lie one inside of another. -/
  | linked {p : Path} {fault : LinkFault} (meant : p = configPath root asked ∨ p = root)
      (unresolved : d.tree.resolve d.directory p = .error fault) : Escapes reader d root asked (.links fault)
  /-- The path is too long to be followed, or leads through a link to a name that is. -/
  | pathTooLong {place : Path} (located : d.configPlace root asked = .ok place)
      (long : place.IsOverlong ∨ d.tree.OverlongLink) : Escapes reader d root asked (.file .nameTooLong place.text)
  /-- The bytes are no text. -/
  | undecodable {content : Bytes} {flaw : Text.Undecodable} (found : d.configBytes? root asked = some content)
      (undecoded : Text.read .utf8 content = .error flaw) : Escapes reader d root asked (.undecodable flaw.message)
  /-- The unexpected keys cannot be sorted. -/
  | incomparable {content : Bytes} {text : String} {data : Data} {entries : List (Data × Data)} {reason : Incomparable}
      (found : d.configBytes? root asked = some content) (decoded : Text.read .utf8 content = .ok text)
      (spelled : reader text = .ok data) (mapping : data.entries? = some entries)
      (clash : Sorting.Clash Data.less (Config.extraKeys entries) reason) :
      Escapes reader d root asked (.incomparable reason)
  /-- The report would quote an integer that is too long to be shown. -/
  | tooLongToShow {content : Bytes} {text : String} {data : Data} {entries : List (Data × Data)}
      {r : Config.Requirement} {quoted : Data} {flaw : ConfigFlaw} (found : d.configBytes? root asked = some content)
      (decoded : Text.read .utf8 content = .ok text) (spelled : reader text = .ok data)
      (mapping : data.entries? = some entries) (first : r.FirstViolated entries)
      (reports : Config.Reports entries r (some quoted) flaw) (long : quoted.hasText = false) :
      Escapes reader d root asked (.badData .badValue Data.tooLongToShow)

/-! ### Stages -/

/-- What the bytes of the configuration file at a path say. -/
def entriesOf (reader : Reader) (p : Path) (content : Bytes) : Except Error (List (Data × Data)) :=
  match Text.read .utf8 content with
  | .error flaw => .error (.undecodable flaw.message)
  | .ok text =>
    match reader text with
    | .error (.aborted fault detail) => .error (.badData fault detail)
    | .error (.diagnosed diagnosis) => .error (.config (.invalidDocument p.text diagnosis))
    | .ok d =>
      match d.entries? with
      | some entries => .ok entries
      | none => if d.isEmpty then .ok [] else .error (.config (.notMapping p.text))

section

variable {reader : Reader} {d : Disk} {root : Path} {asked : Option Path} {place : Path}

theorem checkNull_configPath (hroot : root.checkNull = .ok ()) (hasked : ∀ p ∈ asked, p.checkNull = .ok ()) :
    (configPath root asked).checkNull = .ok () := by
  cases asked with
  | some p => exact hasked p rfl
  | none =>
    have hname : Path.ofString Workspace.configName = ⟨0, ["templar.yaml"]⟩ := by decide
    rw [Path.checkNull_eq_ok] at hroot ⊢
    intro part hpart
    rw [configPath, hname] at hpart
    obtain hpart | hpart := List.mem_append.1 hpart
    · exact hroot part hpart
    · rw [List.mem_singleton.1 hpart]
      decide

/-- A path without null characters has no place because of its links. -/
theorem resolve_eq_error {p : Path} (hnull : p.checkNull = .ok ()) {e : Error} (h : d.resolve p = .error e) :
    ∃ fault, d.tree.resolve d.directory p = .error fault ∧ e = .links fault := by
  rw [resolve, hnull] at h
  cases hresolve : d.tree.resolve d.directory p with
  | error fault =>
    simp only [bind, Except.bind, follow, hresolve, Except.mapError] at h
    cases h
    exact ⟨fault, rfl, rfl⟩
  | ok place =>
    simp only [bind, Except.bind, follow, hresolve, Except.mapError] at h
    cases h

theorem configBytes_of_found (hplace : d.configPlace root asked = .ok place) {found : Option Bytes}
    (hfind : d.find place = .ok found) : d.configBytes? root asked = found := by
  simp only [configBytes?, hplace, hfind]

/-- A configuration is found if one was asked for or a file is there. -/
theorem outcome_findConfig (hplace : d.configPlace root asked = .ok place) {found : Option Bytes}
    (hfind : d.find place = .ok found) :
    outcome (Workspace.ofDisk.findConfig root asked) d
      = (.ok (if asked.isSome || found.isSome then some place else none), d) := by
  have hresolve := d.outcome_resolve (configPath root asked)
  rw [← configPlace, hplace] at hresolve
  cases asked with
  | some p => exact outcome_bind_of_ok hresolve _
  | none =>
    have hfile := d.outcome_isFile place
    rw [hfind] at hfile
    refine (outcome_bind_of_ok hresolve _).trans ((outcome_bind_of_ok hfile _).trans ?_)
    cases found <;> rfl

/-- Without a place, no configuration is looked for. -/
theorem outcome_loadConfig_of_error {e : Error} (hplace : d.configPlace root asked = .error e) :
    outcome (Workspace.ofDisk.loadConfig reader root asked) d = (.error e, d) := by
  have hresolve := d.outcome_resolve (configPath root asked)
  rw [← configPlace, hplace] at hresolve
  have hfound : outcome (Workspace.ofDisk.findConfig root asked) d = (.error e, d) := by
    cases asked with
    | some p => exact outcome_bind_of_failure hresolve _
    | none => exact outcome_bind_of_failure hresolve _
  exact outcome_bind_of_failure hfound _

/-- What keeps a path from being followed keeps it from being asked for a file. -/
theorem outcome_loadConfig_of_fault (hplace : d.configPlace root asked = .ok place) {fault : FileFault}
    (hfind : d.find place = .error fault) :
    outcome (Workspace.ofDisk.loadConfig reader root asked) d = (.error (.file fault place.text), d) := by
  have hresolve := d.outcome_resolve (configPath root asked)
  rw [← configPlace, hplace] at hresolve
  have hfile := d.outcome_isFile place
  rw [hfind] at hfile
  cases asked with
  | some p =>
    have hfound : outcome (Workspace.ofDisk.findConfig root (some p)) d = (.ok (some place), d) :=
      outcome_bind_of_ok hresolve _
    exact (outcome_bind_of_ok hfound _).trans (outcome_bind_of_failure hfile _)
  | none =>
    have hfound : outcome (Workspace.ofDisk.findConfig root none) d = (.error (.file fault place.text), d) :=
      (outcome_bind_of_ok hresolve _).trans (outcome_bind_of_failure hfile _)
    exact outcome_bind_of_failure hfound _

/-- A file that was found can be read, so what is left is what its bytes say. -/
theorem outcome_readEntries {p : Path} {content : Bytes} (hfind : d.find p = .ok (some content)) :
    outcome (Workspace.ofDisk.readEntries reader p) d = (entriesOf reader p content, d) := by
  have hread : outcome (ExceptT.lift (Workspace.ofDisk.files.readText .utf8 p).run) d
      = (.ok ((Text.read .utf8 content).mapError fun flaw => .undecodable flaw.message), d) := by
    have hread := d.outcome_readText .utf8 hfind
    exact congrArg (fun r => (Except.ok r.1, r.2)) hread
  unfold Workspace.readEntries entriesOf
  rw [outcome_bind_of_ok hread]
  cases Text.read .utf8 content with
  | error flaw => rfl
  | ok text =>
    refine (outcome_bind_of_ok (a := text) rfl _).trans ?_
    dsimp only
    generalize reader text = result
    cases result with
    | error refusal => cases refusal <;> rfl
    | ok data =>
      cases hentries : data.entries? with
      | some entries =>
        simp only [hentries]
        rfl
      | none =>
        simp only [hentries]
        split <;> rfl

/-- A configuration that was found is what its bytes say. -/
theorem outcome_loadConfig_of_found (hplace : d.configPlace root asked = .ok place) {content : Bytes}
    (hfind : d.find place = .ok (some content)) :
    outcome (Workspace.ofDisk.loadConfig reader root asked) d
      = (entriesOf reader place content >>= (Config.ofEntries · place.parent), d) := by
  have hconfig := outcome_findConfig hplace hfind
  have hfile := d.outcome_isFile place
  rw [hfind] at hfile
  rw [Option.isSome_some, Bool.or_true, if_pos rfl] at hconfig
  refine (outcome_bind_of_ok hconfig _).trans ((outcome_bind_of_ok hfile _).trans ?_)
  exact outcome_bind_still (outcome_readEntries hfind) fun entries _ => rfl

/-- A configuration that is not there is missed if it was asked for, and says nothing otherwise. -/
theorem outcome_loadConfig_of_absent (hplace : d.configPlace root asked = .ok place) (hfind : d.find place = .ok none) :
    outcome (Workspace.ofDisk.loadConfig reader root asked) d
      = (if asked.isSome then .error (.config (.missingFile place.text)) else (d.resolve root).map Config.empty, d) := by
  have hconfig := outcome_findConfig hplace hfind
  have hfile := d.outcome_isFile place
  rw [hfind] at hfile
  cases asked with
  | some p => exact (outcome_bind_of_ok hconfig _).trans (outcome_bind_of_ok hfile _)
  | none =>
    refine (outcome_bind_of_ok hconfig _).trans ?_
    have hresolve := d.outcome_resolve root
    cases hplace : d.resolve root with
    | ok here => exact outcome_bind_of_ok (hplace ▸ hresolve) _
    | error e => exact outcome_bind_of_failure (hplace ▸ hresolve) _

/-- An error about entries is one about the configuration if it can be reported. -/
theorem contained_of_ofEntries {base : Path} {content : Bytes} {text : String} {data : Data}
    {entries : List (Data × Data)} {e : Error} (found : d.configBytes? root asked = some content)
    (decoded : Text.read .utf8 content = .ok text) (spelled : reader text = .ok data)
    (mapping : data.entries? = some entries) (h : Config.ofEntries entries base = .error e) :
    (∃ flaw, e = .config flaw) ∨ d.Escapes reader root asked e := by
  obtain ⟨-, c, hc, -⟩ | ⟨r, e', first, refused, he⟩ := Config.ofEntries_cases entries base
  · rw [hc] at h
    cases h
  · rw [he] at h
    cases h
    cases refused with
    | incomparable clash => exact .inr (.incomparable found decoded spelled mapping clash)
    | @report _ quoted flaw reports =>
      obtain hconfig | ⟨shown, rfl, long, hrefusal⟩ := Config.refusal_cases quoted flaw
      · exact .inl ⟨flaw, hconfig⟩
      · rw [hrefusal]
        exact .inr (.tooLongToShow found decoded spelled mapping first reports long)

/-- An error that comes from the bytes of a file is one about the configuration, or it is known. -/
theorem contained_of_entriesOf {content : Bytes} {e : Error} (found : d.configBytes? root asked = some content)
    (hyaml : ∀ text, Text.read .utf8 content = .ok text →
      ∀ fault detail, reader text ≠ .error (.aborted fault detail))
    (h : entriesOf reader place content >>= (Config.ofEntries · place.parent) = .error e) :
    (∃ flaw, e = .config flaw) ∨ d.Escapes reader root asked e := by
  unfold entriesOf at h
  split at h
  · rename_i flaw undecoded
    cases h
    exact .inr (.undecodable found undecoded)
  · rename_i text decoded
    split at h
    · rename_i fault detail hnone
      exact absurd hnone (hyaml text decoded fault detail)
    · cases h
      exact .inl ⟨_, rfl⟩
    · rename_i data spelled
      split at h
      · rename_i entries mapping
        exact contained_of_ofEntries found decoded spelled mapping h
      · split at h
        · cases h
        · cases h
          exact .inl ⟨_, rfl⟩

end

end Disk

/-- The disk with nothing but a configuration file. -/
def Disk.ofConfig (content : Bytes) : Disk := ⟨⟨[(["templar.yaml"], .file content)]⟩, ⟨1, []⟩⟩

theorem Disk.configPlace_ofConfig (content : Bytes) :
    (Disk.ofConfig content).configPlace ⟨1, []⟩ none = .ok ⟨1, ["templar.yaml"]⟩ := by
  have hl : (Disk.ofConfig content).tree.Linkless := by
    rintro p (- | ⟨-, ⟨⟩⟩)
    rfl
  have hpath : configPath ⟨1, []⟩ none = ⟨1, ["templar.yaml"]⟩ := by decide
  rw [configPlace, hpath, resolve_of_no_null hl (Path.checkNull_eq_ok.2 (by decide))]
  rfl

theorem Disk.find_ofConfig (content : Bytes) :
    (Disk.ofConfig content).find ⟨1, ["templar.yaml"]⟩ = .ok (some content) := by
  cbv

end Stencil
