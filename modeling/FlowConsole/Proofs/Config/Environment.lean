import FlowConsole.Config.Load
import FlowConsole.Proofs.Config.Layers
/-!
Which variables take part in a configuration.

All variables are read into settings, but only those under the keys of a configuration's fields are
looked at. So a configuration is the same in environments that agree on the variables that lead
there.
-/
namespace FlowConsole

open Entries (Sorted)

namespace Config

/-! ## Settings that no field is named for -/

namespace Check

section

variable {σ : Type}

def isFieldKey (fields : List (Field σ)) (key : String) : Bool :=
  fields.any fun f => f.key == key

theorem fieldsOfMap_filter (fields : List (Field σ)) (start : σ)
    (entries : List (String × Setting)) :
    fieldsOfMap fields start (entries.filter fun e => isFieldKey fields e.1) =
      fieldsOfMap fields start entries := by
  unfold fieldsOfMap
  rw [List.foldlM_filter]
  congr 1
  funext x entry
  by_cases h : isFieldKey fields entry.1 = true
  · rw [if_pos h]
  · have hnone : fields.find? (fun f => f.key == entry.1) = none := by
      simpa [isFieldKey] using h
    rw [if_neg h, hnone]
    rfl

/-- A structure comes out the same from entries that agree under the keys of its fields. -/
theorem structured_eq_of_lookup_eq {name : String} {fields : List (Field σ)} {start : σ}
    {layer : Layer} {entries entries' : List (String × Setting)} (hsorted : Sorted entries)
    (hsorted' : Sorted entries')
    (h : ∀ key, isFieldKey fields key = true → entries.lookup key = entries'.lookup key) :
    structured name fields start (.map layer entries) =
      structured name fields start (.map layer entries') := by
  have hsame : entries.filter (fun e => isFieldKey fields e.1) =
      entries'.filter fun e => isFieldKey fields e.1 := by
    refine Sorted.eq_of_lookup_eq (hsorted.filter _) (hsorted'.filter _) fun key => ?_
    rw [Entries.lookup_filter, Entries.lookup_filter]
    split
    · rename_i hkey
      exact h key hkey
    · rfl
  change fieldsOfMap fields start entries = fieldsOfMap fields start entries'
  rw [← fieldsOfMap_filter, hsame, fieldsOfMap_filter]

end

end Check

end Config

/-! ## Settings of variables -/

namespace Environment

open Config (Check Setting)

def giveEntry (entries : List (String × Setting)) (v : String × String) :
    List (String × Setting) :=
  match keysOf v.1 with
  | [] => entries
  | key :: rest =>
    Setting.overrideEntries entries [(key, nest (settingOf v.2) rest)]

def entries (environment : Environment) : List (String × Setting) :=
  environment.foldl giveEntry []

theorem settings_eq (environment : Environment) :
    environment.settings = .map .environment environment.entries := by
  refine List.foldl_hom (Setting.map .environment) fun entries v => ?_
  obtain ⟨name, text⟩ := v
  unfold giveEntry
  dsimp only
  cases keysOf name with
  | nil => rfl
  | cons key rest =>
      dsimp only
      rw [nest, Setting.override]

theorem entries_sorted (environment : Environment) : Sorted environment.entries := by
  suffices h : ∀ entries : List (String × Setting), Sorted entries →
      Sorted (environment.foldl giveEntry entries) from h [] List.Pairwise.nil
  induction environment with
  | nil => exact fun entries h => h
  | cons v rest ih =>
      intro entries hentries
      apply ih
      unfold giveEntry
      split
      · exact hentries
      · exact Setting.overrideEntries_sorted hentries _

/-- Whether a variable leads to a field of the configuration. -/
def isSetting (name : String) : Bool :=
  match keysOf name with
  | [] => false
  | key :: _ => Check.isFieldKey Check.configFields key

theorem lookup_giveEntry_of_not_isSetting {v : String × String}
    (h : isSetting v.1 = false) {key : String} (hkey : Check.isFieldKey Check.configFields key = true)
    (entries : List (String × Setting)) :
    (giveEntry entries v).lookup key = entries.lookup key := by
  unfold giveEntry
  unfold isSetting at h
  split
  · rfl
  · rename_i first rest hkeys
    rw [hkeys] at h
    have hne : key ≠ first := by
      rintro rfl
      exact absurd hkey (Bool.eq_false_iff.mp h)
    rw [Setting.lookup_overrideEntries (by simp), Entries.lookup_cons_of_ne hne]
    cases entries.lookup key <;> rfl

theorem lookup_giveEntry_congr {entries entries' : List (String × Setting)} {key : String}
    (h : entries.lookup key = entries'.lookup key) (v : String × String) :
    (giveEntry entries v).lookup key = (giveEntry entries' v).lookup key := by
  unfold giveEntry
  split
  · exact h
  · rw [Setting.lookup_overrideEntries (by simp), Setting.lookup_overrideEntries (by simp), h]

theorem lookup_entries_filter (environment : Environment) {key : String}
    (hkey : Check.isFieldKey Check.configFields key = true) :
    (entries (environment.filter fun v => isSetting v.1)).lookup key =
      environment.entries.lookup key := by
  -- the two folds start from different entries after the first variable that is passed over
  suffices h : ∀ before before' : List (String × Setting),
      before.lookup key = before'.lookup key →
      ((environment.filter fun v => isSetting v.1).foldl giveEntry before).lookup key =
        (environment.foldl giveEntry before').lookup key from h [] [] rfl
  induction environment with
  | nil => exact fun before before' h => h
  | cons v rest ih =>
      intro before before' h
      rw [List.filter_cons, List.foldl_cons]
      by_cases hsetting : isSetting v.1 = true
      · rw [if_pos hsetting, List.foldl_cons]
        exact ih _ _ (lookup_giveEntry_congr h v)
      · rw [if_neg hsetting]
        apply ih
        rw [h, lookup_giveEntry_of_not_isSetting (Bool.eq_false_iff.mpr hsetting) hkey]

end Environment

/-! ## Loading -/

namespace Config

open Files (Tree)

theorem fileSettings_isMap (tree : Tree) (path : String) {file : Setting}
    (h : fileSettings tree path = .ok file) : ∃ entries, file = .map .file entries := by
  unfold fileSettings at h
  split at h
  · split at h
    · simp at h
    · split at h
      · rename_i table _
        exact ⟨_, (Except.ok.inj h).symm⟩
      · simp at h
  · exact ⟨[], (Except.ok.inj h).symm⟩

/-- A configuration is the same in environments with the same variables that lead to it. -/
theorem load_eq_of_filter_eq (tree : Tree) (path : String) {environment environment' : Environment}
    (h : environment.filter (fun v => Environment.isSetting v.1) =
      environment'.filter fun v => Environment.isSetting v.1) :
    load tree path environment = load tree path environment' := by
  unfold load
  cases hfile : fileSettings tree path with
  | error e => rfl
  | ok file =>
      obtain ⟨entries, rfl⟩ := fileSettings_isMap tree path hfile
      have hsorted : Sorted (Setting.overrideEntries builtinEntries entries) :=
        Setting.overrideEntries_sorted builtinEntries_sorted entries
      suffices hsame : Check.config
          ((builtinSettings.override (.map .file entries)).override environment.settings) =
          Check.config
            ((builtinSettings.override (.map .file entries)).override environment'.settings) from
        congrArg (Except.mapError LoadError.misfit) hsame
      rw [Environment.settings_eq, Environment.settings_eq, builtinSettings_eq, Setting.override,
        Setting.override, Setting.override, Check.config]
      refine Check.structured_eq_of_lookup_eq (Setting.overrideEntries_sorted hsorted _)
        (Setting.overrideEntries_sorted hsorted _) fun key hkey => ?_
      rw [Setting.lookup_overrideEntries environment.entries_sorted.nodup,
        Setting.lookup_overrideEntries environment'.entries_sorted.nodup,
        ← environment.lookup_entries_filter hkey, h, environment'.lookup_entries_filter hkey]

/-- Variables that are no settings do not matter, whatever they hold. -/
theorem load_eq_of_filter_not_contains (tree : Tree) (path : String) {names : List String}
    (hnames : ∀ name ∈ names, Environment.isSetting name = false)
    {environment environment' : Environment}
    (h : environment.filter (fun v => !names.contains v.1) =
      environment'.filter fun v => !names.contains v.1) :
    load tree path environment = load tree path environment' := by
  have hfilter : ∀ environment : Environment,
      environment.filter (fun v => Environment.isSetting v.1) =
        (environment.filter fun v => !names.contains v.1).filter
          fun v => Environment.isSetting v.1 := by
    intro environment
    rw [List.filter_filter]
    refine List.filter_congr fun v _ => ?_
    cases hsetting : Environment.isSetting v.1 with
    | false => rfl
    | true =>
        have hnot : v.1 ∉ names := by
          intro hmem
          rw [hnames v.1 hmem] at hsetting
          exact Bool.noConfusion hsetting
        simpa using hnot
  apply load_eq_of_filter_eq
  rw [hfilter environment, hfilter environment', h]

end Config

end FlowConsole
