import FlowConsole.Proofs.Action
import FlowConsole.Proofs.Config.Document
import FlowConsole.Proofs.Config.Extract
/-!
The document of a configuration, laid over the built-in settings, passes for that configuration.

What was written covers what is built in. Only the name of the default profile may be missing, and
the built-in one is what is taken then anyway.
-/
namespace FlowConsole.Config

open Entries (Sorted)
open Toml (Simple asValues)

/-! ## Entries that were written -/

def settingOf (v : Simple) : Setting := .ofToml v.toValue

/-- Whether settings are those that were written. -/
def Holds (entries : List (String × Setting)) (written : List (String × Simple)) : Prop :=
  ∀ key, entries.lookup key = (written.lookup key).map settingOf

section

variable {entries : List (String × Setting)} {written : List (String × Simple)} {key : String}

theorem Holds.some (h : Holds entries written) {v : Simple} (hkey : written.lookup key = some v) :
    entries.lookup key = Option.some (settingOf v) := by
  rw [h, hkey]
  rfl

theorem Holds.map (h : Holds entries written) {α : Type} {v : Option α} {f : α → Simple}
    (hkey : written.lookup key = v.map f) :
    entries.lookup key = v.map fun a => settingOf (f a) := by
  rw [h, hkey, Option.map_map]
  rfl

end

theorem override_settingOf (s : Setting) (v : Simple) : s.override (settingOf v) = settingOf v := by
  cases v <;> cases s <;> rfl

theorem holds_overrideEntries {below : List (String × Setting)} {written : List (String × Simple)}
    (hcover : ∀ key, written.lookup key = none → below.lookup key = none) :
    Holds (Setting.overrideEntries below (Setting.ofTomlEntries (asValues written))) written := by
  intro key
  rw [Setting.lookup_overrideEntries (Setting.ofTomlEntries_sorted _).nodup,
    Setting.lookup_ofTomlEntries, asValues, Entries.lookup_map, Option.map_map]
  cases hkey : written.lookup key with
  | none =>
      rw [hcover key hkey]
      rfl
  | some v =>
      cases below.lookup key with
      | none => rfl
      | some s => exact congrArg some (override_settingOf s v)

theorem holds_ofTomlEntries (written : List (String × Simple)) :
    Holds (Setting.ofTomlEntries (asValues written)) written := by
  intro key
  rw [Setting.lookup_ofTomlEntries, asValues, Entries.lookup_map, Option.map_map]
  rfl

/-! ## Values that pass their checks -/

namespace Check

theorem text_settingOf (s : String) : text (settingOf (.string s)) = .ok s := rfl

theorem path_settingOf (s : String) : path (settingOf (.string s)) = .ok s := rfl

theorem boolean_settingOf (b : Bool) : boolean (settingOf (.boolean b)) = .ok b := rfl

theorem natural_settingOf {bits n : Nat} (hn : n < 2 ^ bits) :
    natural bits (settingOf (.natural n)) = .ok n := by
  have hbits : (n : Int) < Nat.pow 2 bits := by exact_mod_cast hn
  change (if (0 : Int) ≤ n ∧ (n : Int) < Nat.pow 2 bits then _ else _) = _
  rw [if_pos ⟨Int.natCast_nonneg n, hbits⟩, Int.toNat_natCast]

theorem lt_of_lookup {written : List (String × Simple)} (hfits : ∀ e ∈ written, e.2.Fits)
    {key : String} {n : Nat} (hkey : written.lookup key = some (.natural n)) : n < 2 ^ 64 := by
  obtain ⟨before, after, rfl, -⟩ := List.lookup_eq_some_iff.mp hkey
  have hn : Toml.fits n = true := hfits (key, .natural n) (by simp)
  simp only [Toml.fits, Bool.and_eq_true, decide_eq_true_eq] at hn
  omega

theorem defaultsEntries_lookup (d : Defaults) :
    (defaultsEntries d).lookup "output" = some (.string d.output) ∧
      (defaultsEntries d).lookup "timeout" = d.timeout.map .natural ∧
      (defaultsEntries d).lookup "fixtures_dir" = some (.string d.fixturesDir) ∧
      (defaultsEntries d).lookup "extension" = some (.string d.extension) := by
  obtain ⟨output, timeout, fixturesDir, extension⟩ := d
  cases timeout <;> exact ⟨rfl, rfl, rfl, rfl⟩

theorem defaults_map {entries : List (String × Setting)} {d : Defaults} (layer : Layer)
    (hnodup : (entries.map Prod.fst).Nodup) (h : Holds entries (defaultsEntries d))
    (hfits : ∀ e ∈ defaultsEntries d, e.2.Fits) : defaults (.map layer entries) = .ok d := by
  obtain ⟨houtput, htime, hfixtures, hextension⟩ := defaultsEntries_lookup d
  refine structured_map (by decide) ?_ hnodup ?_
  · simp only [defaultsFields, List.pairwise_cons, List.forall_mem_cons, List.not_mem_nil,
      false_implies, implies_true, List.Pairwise.nil, and_true]
    and_intros <;> exact field_commutes fun _ _ _ => rfl
  · rw [defaultsFields, fieldsInOrder_field (h.some houtput) (text_settingOf _),
      fieldsInOrder_optional (h.map htime)
        (fun n hn => natural_settingOf (lt_of_lookup hfits (by rw [htime, hn]; rfl))) _
        (fun _ => rfl),
      fieldsInOrder_field (h.some hfixtures) (path_settingOf _),
      fieldsInOrder_field (h.some hextension) (text_settingOf _)]
    rfl

theorem profileEntries_lookup (p : Profile) :
    (profileEntries p).lookup "host" = some (.string p.host) ∧
      (profileEntries p).lookup "port" = some (.natural p.port) ∧
      (profileEntries p).lookup "auth" = some (.boolean p.auth) ∧
      (profileEntries p).lookup "username" = p.username.map .string ∧
      (profileEntries p).lookup "password" = p.password.map .string ∧
      (profileEntries p).lookup "password_env" = p.passwordEnv.map .string ∧
      (profileEntries p).lookup "timeout" = p.timeout.map .natural ∧
      (profileEntries p).lookup "node" = some (.natural p.node) ∧
      (profileEntries p).lookup "table" = some (.natural p.table) := by
  obtain ⟨host, port, auth, username, password, passwordEnv, timeout, node, table⟩ := p
  cases username <;> cases password <;> cases passwordEnv <;> cases timeout <;>
    exact ⟨rfl, rfl, rfl, rfl, rfl, rfl, rfl, rfl, rfl⟩

theorem profile_map {entries : List (String × Setting)} {p : Profile} (layer : Layer)
    (hnodup : (entries.map Prod.fst).Nodup) (h : Holds entries (profileEntries p))
    (hport : p.port < 2 ^ 16) (hfits : ∀ e ∈ profileEntries p, e.2.Fits) :
    profile (.map layer entries) = .ok p := by
  obtain ⟨hhost, hport', hauth, husername, hpassword, hvariable, htime, hnode, htable⟩ :=
    profileEntries_lookup p
  refine structured_map (by decide) ?_ hnodup ?_
  · simp only [profileFields, List.pairwise_cons, List.forall_mem_cons, List.not_mem_nil,
      false_implies, implies_true, List.Pairwise.nil, and_true]
    and_intros <;> exact field_commutes fun _ _ _ => rfl
  · have hnatural : ∀ {key n}, (profileEntries p).lookup key = some (.natural n) → n < 2 ^ 64 :=
      fun hkey => lt_of_lookup hfits hkey
    rw [profileFields, fieldsInOrder_field (h.some hhost) (text_settingOf _),
      fieldsInOrder_field (h.some hport') (natural_settingOf hport),
      fieldsInOrder_field (h.some hauth) (boolean_settingOf _),
      fieldsInOrder_optional (h.map husername) (fun _ _ => text_settingOf _) _ (fun _ => rfl),
      fieldsInOrder_optional (h.map hpassword) (fun _ _ => text_settingOf _) _ (fun _ => rfl),
      fieldsInOrder_optional (h.map hvariable) (fun _ _ => text_settingOf _) _ (fun _ => rfl),
      fieldsInOrder_optional (h.map htime)
        (fun n hn => natural_settingOf (hnatural (by rw [htime, hn]; rfl))) _ (fun _ => rfl),
      fieldsInOrder_field (h.some hnode) (natural_settingOf (hnatural hnode)),
      fieldsInOrder_field (h.some htable) (natural_settingOf (hnatural htable))]
    rfl

end Check

/-! ## The document over the built-in settings -/

def builtinDefaults : List (String × Setting) :=
  [("extension", .scalar .builtin (.text Defaults.standard.extension)),
    ("fixtures_dir", .scalar .builtin (.text Defaults.standard.fixturesDir)),
    ("output", .scalar .builtin (.text Defaults.standard.output))]

/-- Entries that are there whatever the file says. -/
def builtinEntries : List (String × Setting) :=
  [("default_profile", .scalar .builtin (.text standardProfile)),
    ("defaults", .map .builtin builtinDefaults), ("profiles", .map .builtin [])]

theorem builtinSettings_eq : builtinSettings = .map .builtin builtinEntries := rfl

theorem document_lookup (c : Config) :
    (document c).lookup "default_profile" = c.defaultProfile.map .string ∧
      (document c).lookup "defaults" = some (.table (asValues (defaultsEntries c.defaults))) ∧
      (document c).lookup "profiles" = some (.table (c.profiles.map fun e =>
        (e.1, .table (asValues (profileEntries e.2))))) := by
  obtain ⟨defaultProfile, defaults, profiles⟩ := c
  cases defaultProfile <;> exact ⟨rfl, rfl, rfl⟩

def profileSetting (e : String × Profile) : String × Setting :=
  (e.1, .map .file (Setting.ofTomlEntries (asValues (profileEntries e.2))))

/-- Profiles pass for themselves, in whatever order they stand. -/
theorem profiles_map {profiles : List (String × Profile)} (layer : Layer)
    (hports : ∀ e ∈ profiles, e.2.port < 2 ^ 16)
    (hfits : ∀ e ∈ profiles, ∀ v ∈ profileEntries e.2, v.2.Fits) {entries : List (String × Setting)}
    (h : entries.Perm (profiles.map profileSetting)) :
    ∃ same, Check.profiles (.map layer entries) = .ok same ∧ same.Perm profiles := by
  obtain ⟨same, hperm, rfl⟩ := Entries.exists_perm_of_perm_map h
  refine ⟨same, mapM_map_of_forall fun e he => ?_, hperm⟩
  have hmem := hperm.mem_iff.mp he
  have hprofile := Check.profile_map .file (Setting.ofTomlEntries_sorted _).nodup
    (holds_ofTomlEntries _) (hports e hmem) (hfits e hmem)
  simp only [profileSetting, Check.under, hprofile]
  rfl

theorem builtinEntries_sorted : Sorted builtinEntries := by
  unfold Sorted builtinEntries
  decide

theorem builtinDefaults_covered (d : Defaults) {key : String}
    (h : (defaultsEntries d).lookup key = none) : builtinDefaults.lookup key = none := by
  rw [Entries.lookup_eq_none_iff] at h ⊢
  cases htimeout : d.timeout <;> simp_all [defaultsEntries, builtinDefaults, entryOf?]

/-- The settings of a file with the table of a configuration, over the built-in ones. -/
def layered (c : Config) : List (String × Setting) :=
  Setting.overrideEntries builtinEntries (Setting.ofTomlEntries (document c))

theorem layered_lookup (c : Config) (key : String) :
    (layered c).lookup key = Setting.overrideOption (builtinEntries.lookup key)
      (((document c).lookup key).map Setting.ofToml) := by
  rw [layered, Setting.lookup_overrideEntries (Setting.ofTomlEntries_sorted _).nodup,
    Setting.lookup_ofTomlEntries]

theorem layered_name (c : Config) : ∃ layer, (layered c).lookup "default_profile" =
    some (.scalar layer (.text (c.defaultProfile.getD standardProfile))) := by
  rw [layered_lookup, (document_lookup c).1]
  cases c.defaultProfile <;> exact ⟨_, rfl⟩

theorem layered_defaults (c : Config) : (layered c).lookup "defaults" =
    some (.map .file (Setting.overrideEntries builtinDefaults
      (Setting.ofTomlEntries (asValues (defaultsEntries c.defaults))))) := by
  rw [layered_lookup, (document_lookup c).2.1]
  rfl

theorem layered_profiles {c : Config} (hnames : c.profileNames.Nodup) :
    ∃ entries : List (String × Setting), (layered c).lookup "profiles" = some (.map .file entries) ∧
      entries.Perm (c.profiles.map profileSetting) := by
  have hkeys : ((c.profiles.map fun e =>
      (e.1, Toml.Value.table (asValues (profileEntries e.2)))).map Prod.fst).Nodup := by
    rw [List.map_map]
    exact hnames
  refine ⟨_, ?_, (Setting.overrideEntries_nil_perm (Setting.ofTomlEntries_sorted _).nodup).trans
    ((Setting.ofTomlEntries_perm hkeys).trans ?_)⟩
  · rw [layered_lookup, (document_lookup c).2.2]
    rfl
  · rw [List.map_map]
    exact List.Perm.refl _

/-- The table of a configuration, laid over the built-in settings, passes for it. -/
theorem config_layered {c : Config} (hnames : c.profileNames.Nodup)
    (hports : ∀ e ∈ c.profiles, e.2.port < 2 ^ 16)
    (hdefaultsFit : ∀ e ∈ defaultsEntries c.defaults, e.2.Fits)
    (hprofilesFit : ∀ e ∈ c.profiles, ∀ v ∈ profileEntries e.2, v.2.Fits) (layer : Layer) :
    ∃ profiles : List (String × Profile), profiles.Perm c.profiles ∧
      Check.config (.map layer (layered c)) =
        .ok { defaultProfile := some (c.defaultProfile.getD standardProfile)
              defaults := c.defaults, profiles } := by
  have hnodup : ((layered c).map Prod.fst).Nodup :=
    (Setting.overrideEntries_sorted builtinEntries_sorted _).nodup
  obtain ⟨nameLayer, hname⟩ := layered_name c
  obtain ⟨entries, hentries, hperm⟩ := layered_profiles hnames
  obtain ⟨profiles, hprofiles, hsame⟩ := profiles_map .file hports hprofilesFit hperm
  have hdefaults := Check.defaults_map .file
    (Setting.overrideEntries_sorted (by unfold Sorted builtinDefaults; decide) _).nodup
    (holds_overrideEntries fun key => builtinDefaults_covered c.defaults) hdefaultsFit
  have htext : Check.optional Check.text
      (.scalar nameLayer (.text (c.defaultProfile.getD standardProfile))) =
        .ok (some (c.defaultProfile.getD standardProfile)) := rfl
  refine ⟨profiles, hsame, Check.structured_map (by decide) ?_ hnodup ?_⟩
  · simp only [Check.configFields, List.pairwise_cons, List.forall_mem_cons, List.not_mem_nil,
      false_implies, implies_true, List.Pairwise.nil, and_true]
    and_intros <;> exact Check.field_commutes fun _ _ _ => rfl
  · rw [Check.configFields, Check.fieldsInOrder_field hname htext,
      Check.fieldsInOrder_field (layered_defaults c) hdefaults,
      Check.fieldsInOrder_field hentries hprofiles]
    rfl

end FlowConsole.Config
