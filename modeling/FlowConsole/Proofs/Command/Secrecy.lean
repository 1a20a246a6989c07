import FlowConsole.Proofs.Command.Authorization
import FlowConsole.Proofs.Config.Environment
import FlowConsole.Proofs.TwoRuns
/-!
What settings tell of a password.

Settings are chosen without a look at passwords, and none is part of what is shown of them. Only the
error for a profile that does not exist can differ with one: the profiles it lists are those of the
disk and the environment, and a variable that holds a password may be a setting as well, or say where
the configuration lies.
-/
namespace FlowConsole

open Harness (Login)

/-! ## What is left without passwords -/

def Harness.Login.withoutPassword (login : Login) : Login :=
  { login with password := "" }

def Harness.Settings.withoutPassword (c : Harness.Settings) : Harness.Settings :=
  { c with login := c.login.map Login.withoutPassword }

theorem Harness.Login.map_withoutPassword_eq {login login' : Option Login}
    (h : login.map Login.username = login'.map Login.username) :
    login.map withoutPassword = login'.map withoutPassword := by
  have hname : withoutPassword = (fun username => ⟨username, ""⟩) ∘ Login.username := rfl
  rw [hname, ← Option.map_map, h, Option.map_map]

/-- Whether settings differ in the password alone, and have a user name with it. -/
structure Harness.Settings.SameButPassword (c c' : Harness.Settings) : Prop where
  same : c.withoutPassword = c'.withoutPassword
  named : ∀ login ∈ c.login, login.username.isEmpty = false
  named' : ∀ login ∈ c'.login, login.username.isEmpty = false

theorem Harness.Settings.SameButPassword.username {c c' : Harness.Settings}
    (h : c.SameButPassword c') : c.login.map Login.username = c'.login.map Login.username := by
  have hlogin := congrArg (Option.map Login.username) (congrArg Harness.Settings.login h.same)
  have hname : Login.username ∘ Login.withoutPassword = Login.username := rfl
  simpa only [withoutPassword, Option.map_map, hname] using hlogin

def Profile.withoutPassword (p : Profile) : Profile :=
  { p with password := none, passwordEnv := none }

namespace Config

def withoutPasswords (c : Config) : Config :=
  { c with profiles := c.profiles.map fun e => (e.1, e.2.withoutPassword) }

def passwordVariables (c : Config) : List String :=
  c.profiles.filterMap fun e => e.2.passwordEnv

theorem profile?_withoutPasswords (c : Config) (name : Option String) :
    (c.withoutPasswords.profile? name).map (Prod.map id Profile.withoutPassword) =
      (c.profile? name).map (Prod.map id Profile.withoutPassword) := by
  have hlookup : ∀ key : String, c.withoutPasswords.profiles.lookup key =
      (c.profiles.lookup key).map Profile.withoutPassword :=
    fun key => Entries.lookup_map Profile.withoutPassword key c.profiles
  unfold profile?
  cases name with
  | none =>
      rw [show c.withoutPasswords.defaultProfile = c.defaultProfile from rfl]
      dsimp only [Option.map_some]
      rw [hlookup]
      cases c.profiles.lookup (c.defaultProfile.getD standardProfile) <;> rfl
  | some name =>
      dsimp only
      rw [hlookup]
      cases c.profiles.lookup name <;> rfl

end Config

/-! ## Who logs in -/

namespace Profile

theorem username_login? (p : Profile) (environment : Environment) :
    (p.login? environment).map Login.username =
      if p.auth then (some (p.username.getD standardUsername)).filter (!·.isEmpty) else none := by
  unfold login?
  cases p.auth with
  | false => rfl
  | true =>
      cases hempty : (p.username.getD standardUsername).isEmpty <;> simp [Option.filter, hempty]

theorem username_ne_of_login? {p : Profile} {environment : Environment} {login : Login}
    (h : p.login? environment = some login) : login.username.isEmpty = false := by
  simp only [login?] at h
  split at h
  · rename_i hnamed
    obtain rfl := Option.some.inj h
    simpa using hnamed.2
  · simp at h

theorem controller_matches {p p' : Profile} (h : p.withoutPassword = p'.withoutPassword)
    (defaults : Defaults) (environment environment' : Environment) :
    Matches Harness.Settings.SameButPassword (p.controller defaults environment)
      (p'.controller defaults environment') := by
  obtain ⟨hhost, hport, hauth, husername, -, -, htimeout, hnode, htable⟩ := Profile.mk.inj h
  have hlogin : (p.login? environment).map Login.withoutPassword =
      (p'.login? environment').map Login.withoutPassword := by
    apply Login.map_withoutPassword_eq
    rw [username_login?, username_login?, hauth, husername]
  unfold controller
  rw [hhost, hport, htimeout, hnode, htable]
  refine (matches_refl _).bind fun _ _ _ => .ok ⟨?_, ?_, ?_⟩
  · simp only [Harness.Settings.withoutPassword, hlogin]
  · exact fun login hlogin => username_ne_of_login? hlogin
  · exact fun login hlogin => username_ne_of_login? hlogin

end Profile

namespace Command

def Options.withoutPassword (o : Options) : Options :=
  { o with password := none }

def Settings.withoutPassword (s : Settings) : Settings :=
  { s with controller := s.controller.withoutPassword }

def Error.withoutNames : Error → Error
  | .profileNotFound name _ => .profileNotFound name []
  | e => e

theorem Options.username_login? (o : Options) {login : Option Login}
    (hnamed : ∀ l ∈ login, l.username.isEmpty = false) :
    (o.login? login).map Login.username =
      if o.noAuth then none
      else (o.username.or (login.map Login.username)).filter (!·.isEmpty) := by
  unfold login?
  cases o.noAuth with
  | true => rfl
  | false =>
      cases husername : o.username with
      | some username =>
          cases hempty : username.isEmpty <;> simp [Option.filter, hempty]
      | none =>
          cases login with
          | none => cases o.password <;> rfl
          | some l => cases o.password <;> simp [Option.filter, hnamed l rfl]

theorem Options.controller_matches {o o' : Options} (h : o.withoutPassword = o'.withoutPassword)
    {c c' : Harness.Settings} (hc : c.SameButPassword c') :
    Matches (fun chosen chosen' => chosen.withoutPassword = chosen'.withoutPassword)
      (o.controller c) (o'.controller c') := by
  obtain ⟨-, hhost, hport, husername, -, hnoAuth, htime, hnode, htable, -⟩ := Options.mk.inj h
  obtain ⟨host, port, login, timeout, node, table⟩ := c
  obtain ⟨host', port', login', timeout', node', table'⟩ := c'
  obtain ⟨rfl, rfl, -, rfl, rfl, rfl⟩ := Harness.Settings.mk.inj hc.same
  have hlogin : (o.login? login).map Login.withoutPassword =
      (o'.login? login').map Login.withoutPassword := by
    apply Login.map_withoutPassword_eq
    rw [o.username_login? hc.named, o'.username_login? hc.named', hnoAuth, husername, hc.username]
  have hsame : (Harness.Settings.mk (o.host.getD host) (o.port.getD port) (o.login? login)
        ((o.timeout.map Profile.milliseconds).or timeout) (o.node.getD node)
        (o.table.getD table)).withoutPassword =
      (Harness.Settings.mk (o'.host.getD host) (o'.port.getD port) (o'.login? login')
        ((o'.timeout.map Profile.milliseconds).or timeout) (o'.node.getD node)
        (o'.table.getD table)).withoutPassword := by
    simp only [Harness.Settings.withoutPassword, hlogin, hhost, hport, htime, hnode, htable]
  unfold controller
  cases hchosen : o'.host with
  | none =>
      rw [hchosen] at hhost
      rw [hhost]
      rw [hhost, hchosen] at hsame
      exact .ok hsame
  | some chosen =>
      rw [hchosen] at hhost
      rw [hhost, hport]
      rw [hhost, hport, hchosen] at hsame
      exact (matches_refl _).bind fun _ _ _ => .ok hsame

theorem Settings.ofConfig_matches {c c' : Config} (hc : c.withoutPasswords = c'.withoutPasswords)
    {o o' : Options} (ho : o.withoutPassword = o'.withoutPassword)
    (environment environment' : Environment) :
    Matches (fun chosen chosen' => chosen.withoutPassword = chosen'.withoutPassword)
      (ofConfig c o environment) (ofConfig c' o' environment') := by
  obtain ⟨hname, -, -, -, -, -, -, -, -, hfixtures, hextension, houtput, hcolor, -, hquiet, hyes⟩ :=
    Options.mk.inj ho
  have hprofile : (c.profile? o'.profile).map (Prod.map id Profile.withoutPassword) =
      (c'.profile? o'.profile).map (Prod.map id Profile.withoutPassword) := by
    rw [← c.profile?_withoutPasswords, ← c'.profile?_withoutPasswords, hc]
  have hdefaults : c.defaults = c'.defaults := (Config.mk.inj hc).2.1
  have hformat : o.format = o'.format := by
    unfold Options.format
    rw [houtput]
  unfold ofConfig
  rw [hname, hdefaults, hformat, hfixtures, hextension, hcolor, hquiet, hyes]
  cases hselected : c.profile? o'.profile with
  | none =>
      rw [hselected] at hprofile
      rw [Option.map_eq_none_iff.mp hprofile.symm]
      exact .error _
  | some selected =>
      rw [hselected] at hprofile
      obtain ⟨⟨name, p'⟩, hselected', hpair⟩ := Option.map_eq_some_iff.mp hprofile.symm
      obtain ⟨name', p⟩ := selected
      obtain ⟨rfl, hp⟩ := Prod.mk.inj hpair
      rw [hselected']
      refine (Profile.controller_matches hp.symm _ _ _).bind fun base base' hbase => ?_
      refine (Options.controller_matches ho hbase).bind fun chosen chosen' hchosen => ?_
      refine (matches_refl _).bind fun format _ hformat => .ok ?_
      simp only [withoutPassword, hchosen, hformat]
      rfl

/-! ## What is shown, and what fails -/

namespace Running

theorem settingsText_withoutPassword (chosen : Settings) :
    settingsText chosen.withoutPassword = settingsText chosen := by
  obtain ⟨profile, ⟨host, port, login, timeout, node, table⟩, fixturesDir, extension, format, _⟩ :=
    chosen
  cases login <;> cases format <;> rfl

theorem settingsText_eq_of_withoutPassword {chosen chosen' : Settings}
    (h : chosen.withoutPassword = chosen'.withoutPassword) (f : Report.Format) :
    settingsText { chosen with format := f } = settingsText { chosen' with format := f } := by
  have hformat : ∀ s : Settings, Settings.withoutPassword { s with format := f } =
      { s.withoutPassword with format := f } := fun _ => rfl
  rw [← settingsText_withoutPassword, hformat, h, ← hformat, settingsText_withoutPassword]

/-- The settings that options choose from a configuration, with the error as it is reported. -/
def fromConfig (s : Surroundings) (files : Files.Tree) (c : Config) (o : Options) :
    Except Error Settings :=
  (Settings.ofConfig c o s.environment).mapError (configError s files)

def passwordVariable : String := "CABLEFLOW_PASSWORD"

/-- Whether what settings are chosen from differs in passwords alone: those of profiles and of the
options, and the values of the variables that hold them. -/
structure DiffersInPasswords (environment environment' : Environment) (c c' : Config)
    (o o' : Options) : Prop where
  config : c.withoutPasswords = c'.withoutPasswords
  options : o.withoutPassword = o'.withoutPassword
  environment :
    let holdsPassword (name : String) : Bool :=
      (passwordVariable :: (c.passwordVariables ++ c'.passwordVariables)).contains name
    environment.filter (fun v => !holdsPassword v.1) =
      environment'.filter fun v => !holdsPassword v.1

/-- Whether a variable has no part in the configuration on disk: it is no setting, and does not say
where the configuration lies. -/
structure IsApart (name : String) : Prop where
  notSetting : Environment.isSetting name = false
  notHome : name ≠ homeVariable
  notConfigHome : name ≠ configHomeVariable

theorem isApart_passwordVariable : IsApart passwordVariable :=
  ⟨by decide, by decide, by decide⟩

section

variable {s : Surroundings} {environment : Environment} {c c' : Config} {o o' : Options}

/-- Whether an error of the configuration is about what was chosen from it. -/
def IsChoice : Config.Error → Prop
  | .invalid _ _ => True
  | .unknownProfile _ => True
  | _ => False

theorem checkHost_isChoice {host : String} {port : Nat} {e : Config.Error}
    (h : Config.checkHost host port = .error e) : IsChoice e := by
  unfold Config.checkHost at h
  split at h
  · cases h
    trivial
  · split at h
    · cases h
      trivial
    · split at h <;> cases h
      trivial

theorem profile_controller_isChoice {p : Profile} {defaults : Defaults} {e : Config.Error}
    (h : p.controller defaults environment = .error e) : IsChoice e := by
  unfold Profile.controller at h
  rcases bind_eq_error h with h | ⟨-, -, h⟩
  · exact checkHost_isChoice h
  · cases h

theorem options_controller_isChoice {base : Harness.Settings} {e : Config.Error}
    (h : o.controller base = .error e) : IsChoice e := by
  unfold Options.controller at h
  cases hhost : o.host with
  | none =>
      rw [hhost] at h
      cases h
  | some host =>
      rw [hhost] at h
      dsimp only at h
      cases haccept : Config.checkHost host (o.port.getD base.port) with
      | error problem =>
          rw [haccept] at h
          obtain rfl := Except.error.inj h
          exact checkHost_isChoice haccept
      | ok _ =>
          rw [haccept] at h
          cases h

theorem ofConfig_isChoice {e : Config.Error} (h : Settings.ofConfig c o environment = .error e) :
    IsChoice e := by
  unfold Settings.ofConfig at h
  split at h
  · cases h
    trivial
  · rcases bind_eq_error h with h | ⟨base, -, h⟩
    · exact profile_controller_isChoice h
    · rcases bind_eq_error h with h | ⟨controller, -, h⟩
      · exact options_controller_isChoice h
      · rcases bind_eq_error h with h | ⟨format, -, h⟩
        · unfold Options.format at h
          split at h <;> cases h
          trivial
        · cases h

theorem configError_withoutNames (s s' : Surroundings) (files : Files.Tree) {e : Config.Error}
    (he : IsChoice e) :
    (configError s files e).withoutNames = (configError s' files e).withoutNames := by
  unfold configError
  cases e with
  | invalid | unknownProfile => simp only [Error.ofConfig, Error.withoutNames]
  | unwritable | unloadable | files => exact he.elim

namespace DiffersInPasswords

variable (h : DiffersInPasswords s.environment environment c c' o o')
  (hapart : ∀ name ∈ c.passwordVariables ++ c'.passwordVariables, IsApart name)

include hapart in
theorem isApart_of_mem :
    ∀ name ∈ passwordVariable :: (c.passwordVariables ++ c'.passwordVariables), IsApart name := by
  rw [List.forall_mem_cons]
  exact ⟨isApart_passwordVariable, hapart⟩

include h hapart

theorem lookup_eq {name : String} (hname : ¬ IsApart name) :
    s.environment.lookup name = environment.lookup name := by
  have hheld : (passwordVariable :: (c.passwordVariables ++ c'.passwordVariables)).contains name =
      false := by
    rw [Bool.eq_false_iff]
    exact fun hmem => hname (isApart_of_mem hapart name (List.contains_iff_mem.mp hmem))
  have hkept := congrArg (List.lookup name) h.environment
  dsimp only at hkept
  rw [Entries.lookup_filter (fun name => !List.contains _ name),
    Entries.lookup_filter (fun name => !List.contains _ name)] at hkept
  simpa only [hheld, Bool.not_false, if_true] using hkept

theorem configPath_eq : s.configPath = { s with environment := environment }.configPath := by
  unfold Surroundings.configPath
  rw [h.lookup_eq hapart fun hhome => hhome.notHome rfl,
    h.lookup_eq hapart fun hhome => hhome.notConfigHome rfl]

theorem loadedConfig_eq (files : Files.Tree) :
    loadedConfig s files = loadedConfig { s with environment := environment } files := by
  have hload : Config.load files s.configPath s.environment =
      Config.load files s.configPath environment :=
    Config.load_eq_of_filter_not_contains files s.configPath
      (fun name hname => (isApart_of_mem hapart name hname).notSetting) h.environment
  unfold loadedConfig
  rw [hload, h.configPath_eq hapart]

end DiffersInPasswords

/-- Passwords make no difference to settings: they are chosen alike and shown alike, or choosing them
fails alike. What can differ is the profiles that are listed where one does not exist, and that only
if a variable for a password has a part in the configuration on disk as well. -/
theorem fromConfig_hidesPasswords (h : DiffersInPasswords s.environment environment c c' o o')
    (files : Files.Tree) :
    let s' := { s with environment := environment }
    (∃ chosen chosen', fromConfig s files c o = .ok chosen ∧
      fromConfig s' files c' o' = .ok chosen' ∧
      chosen.withoutPassword = chosen'.withoutPassword ∧
      ∀ f : Report.Format, settingsText { chosen with format := f } =
        settingsText { chosen' with format := f }) ∨
    ∃ e e', fromConfig s files c o = .error e ∧ fromConfig s' files c' o' = .error e' ∧
      e.withoutNames = e'.withoutNames ∧
      ((∀ name ∈ c.passwordVariables ++ c'.passwordVariables, IsApart name) → e = e') := by
  have hmatches := Settings.ofConfig_matches h.config h.options s.environment environment
  have hchoice : ∀ e, Settings.ofConfig c o s.environment = .error e → IsChoice e :=
    fun _ => ofConfig_isChoice
  unfold fromConfig
  dsimp only
  generalize Settings.ofConfig c o s.environment = r at hmatches hchoice ⊢
  generalize Settings.ofConfig c' o' environment = r' at hmatches ⊢
  cases hmatches with
  | ok hsame =>
      exact .inl ⟨_, _, rfl, rfl, hsame, settingsText_eq_of_withoutPassword hsame⟩
  | error e =>
      refine .inr ⟨_, _, rfl, rfl, configError_withoutNames _ _ files (hchoice e rfl),
        fun hapart => ?_⟩
      unfold configError
      rw [h.loadedConfig_eq hapart, h.configPath_eq hapart]

end

def bareOptions : Options :=
  { profile := none, host := none, port := none, username := none, password := none, noAuth := false
    timeout := none, node := none, table := none, fixturesDir := none, extension := none
    output := none, color := .auto, verbose := 0, quiet := false, yes := false }

theorem fromConfig_bareOptions (password : Option String) :
    fromConfig bareSurroundings bareStart.files .standard { bareOptions with password } =
      .ok { profile := "default"
            controller :=
              { Harness.Settings.standard with
                login := some { username := "admin", password := password.getD "admin" } }
            fixturesDir := ".", extension := "json", format := .table, color := false
            quiet := false, yes := false } := by
  have hcontroller : ({ bareOptions with password } : Options).controller .standard =
      .ok { Harness.Settings.standard with
            login := some { username := "admin", password := password.getD "admin" } } := by
    cases password <;> rfl
  have hchosen := Settings.ofConfig_ok (c := .standard) rfl standard_controller hcontroller
    (format_table rfl)
  unfold fromConfig
  rw [show bareSurroundings.environment = [] from rfl, hchosen]
  rfl

theorem fromConfig_hides_option :
    ∃ chosen chosen', fromConfig bareSurroundings bareStart.files .standard bareOptions =
        .ok chosen ∧
      fromConfig bareSurroundings bareStart.files .standard
        { bareOptions with password := some "tiger" } = .ok chosen' ∧
      chosen ≠ chosen' ∧ ∀ f : Report.Format, settingsText { chosen with format := f } =
        settingsText { chosen' with format := f } := by
  have hdiffers : DiffersInPasswords bareSurroundings.environment bareSurroundings.environment
      .standard .standard bareOptions { bareOptions with password := some "tiger" } := ⟨rfl, rfl, rfl⟩
  have hbare := fromConfig_bareOptions none
  have htiger := fromConfig_bareOptions (some "tiger")
  rcases fromConfig_hidesPasswords hdiffers bareStart.files with
    ⟨chosen, chosen', hchosen, hchosen', -, hshown⟩ | ⟨e, -, herror, -⟩
  · refine ⟨chosen, chosen', hchosen, hchosen', ?_, hshown⟩
    rintro rfl
    have hsame := (hchosen.symm.trans hbare).symm.trans (hchosen'.symm.trans htiger)
    simp at hsame
  · rw [show bareOptions = { bareOptions with password := none } from rfl, hbare] at herror
    simp at herror

/-- A variable that is named for the password of a profile and is the setting of that password. -/
def labVariable : String := "CABLEFLOW_PROFILES__LAB__PASSWORD"

def labConfig : Config :=
  { Config.standard with
    profiles := [("lab", { Profile.blank with passwordEnv := some labVariable })] }

def labSurroundings (password : String) : Surroundings :=
  { bareSurroundings with environment := [(labVariable, password)] }

def labSettings (password : Config.Scalar) : Config.Setting :=
  .map .environment [
    ("default_profile", .scalar .builtin (.text Config.standardProfile)),
    ("defaults", .map .builtin Config.builtinDefaults),
    ("profiles", .map .environment [
      ("lab", .map .environment [("password", .scalar .environment password)])])]

theorem labSurroundings_load (password : String) (value : Config.Scalar)
    (h : Environment.settings [(labVariable, password)] = .map .environment [
      ("profiles", .map .environment [
        ("lab", .map .environment [("password", .scalar .environment value)])])]) :
    Config.load bareStart.files (labSurroundings password).configPath
        (labSurroundings password).environment =
      (Config.Check.config (labSettings value)).mapError .misfit := by
  unfold Config.load
  rw [show (labSurroundings password).configPath = bareSurroundings.configPath from rfl,
    show (labSurroundings password).environment = [(labVariable, password)] from rfl,
    bareStart_fileSettings, h]
  rfl

theorem labSettings_text (password : String) :
    Config.Check.config (labSettings (.text password)) =
      .ok { Config.standard with
            profiles := [("lab", { Profile.blank with password := some password })] } := rfl

/-- A number is no text, so that it gives no configuration. -/
theorem labSettings_number (n : Nat) :
    ∃ misfit, Config.Check.config (labSettings (.unsigned n)) = .error misfit :=
  ⟨_, rfl⟩

/-- The error for a profile that does not exist tells a password of digits from others. -/
theorem fromConfig_tells_password :
    DiffersInPasswords (labSurroundings "secret").environment (labSurroundings "1234").environment
        labConfig labConfig { bareOptions with profile := some "nope" } { bareOptions with profile := some "nope" } ∧
      fromConfig (labSurroundings "secret") bareStart.files labConfig
        { bareOptions with profile := some "nope" } = .error (.profileNotFound "nope" ["lab"]) ∧
      fromConfig (labSurroundings "1234") bareStart.files labConfig
        { bareOptions with profile := some "nope" } = .error (.profileNotFound "nope" []) := by
  have hunknown : ∀ environment, Settings.ofConfig labConfig
      { bareOptions with profile := some "nope" } environment =
        .error (.unknownProfile "nope") := fun environment => rfl
  have hsecret := labSurroundings_load "secret" (.text "secret") rfl
  have hdigits := labSurroundings_load "1234" (.unsigned 1234) rfl
  rw [labSettings_text] at hsecret
  obtain ⟨misfit, hmisfit⟩ := labSettings_number 1234
  rw [hmisfit] at hdigits
  refine ⟨⟨rfl, rfl, rfl⟩, ?_, ?_⟩
  · unfold fromConfig configError loadedConfig
    rw [hunknown, hsecret]
    rfl
  · unfold fromConfig configError loadedConfig
    rw [hunknown, hdigits]
    rfl

end Running

end Command

end FlowConsole
