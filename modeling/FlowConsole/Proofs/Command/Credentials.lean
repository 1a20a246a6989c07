import FlowConsole.Proofs.Command.Secrecy
/-!
Which credentials come of a profile and the options over it.

The user name is always that of the options, else that of the profile, else the standard one. The
password is so as well, unless a user name turns on the login of a profile that sends none: the
password of the profile is lost then.
-/
namespace FlowConsole

open Harness (Login)

namespace Profile

theorem login?_eq_none_iff {p : Profile} {environment : Environment} :
    p.login? environment = none ↔ p.auth = false ∨ p.username = some "" := by
  have hstandard : standardUsername ≠ "" := by decide
  cases hauth : p.auth <;> cases husername : p.username <;>
    simp [login?, hauth, husername, hstandard]

theorem eq_of_login? {p : Profile} {environment : Environment} {l : Login}
    (h : p.login? environment = some l) :
    l = ⟨p.username.getD standardUsername, p.chosenPassword environment⟩ := by
  simp only [login?] at h
  split at h
  · exact (Option.some.inj h).symm
  · cases h

theorem controller_login (p : Profile) (defaults : Defaults) (environment : Environment) :
    Yields (p.controller defaults environment) fun c => c.login = p.login? environment :=
  yields_bind fun _ => yields_ok rfl

end Profile

namespace Command

theorem Options.eq_of_login? {o : Options} {login : Option Login} {l : Login}
    (h : o.login? login = some l) :
    l = ⟨o.username.getD (login.elim "" (·.username)),
      o.password.getD (login.elim "" (·.password))⟩ := by
  simp only [login?] at h
  split at h
  · cases h
  · split at h
    · rename_i hneither
      simp only [Option.isNone_iff_eq_none] at hneither
      simp [hneither, h]
    · split at h
      · cases h
      · exact (Option.some.inj h).symm

theorem Options.username_ne_of_login? {o : Options} {login : Option Login} {l : Login}
    (hnamed : ∀ l ∈ login, l.username.isEmpty = false) (h : o.login? login = some l) :
    l.username ≠ "" := by
  have husername := o.username_login? hnamed
  rw [h, Option.map_some] at husername
  split at husername
  · nomatch husername
  · have hkept := (Option.filter_eq_some_iff.mp husername.symm).2
    simpa using hkept

theorem controller_login (p : Profile) (defaults : Defaults) (o : Options)
    (environment : Environment) :
    Yields (p.controller defaults environment >>= o.controller) fun c =>
      c.login = o.login? (p.login? environment) := by
  refine (p.controller_login defaults environment).bind fun base hbase => ?_
  rw [← hbase]
  exact o.controller_login base

/-- Whether a profile that sends no login has a password, and options do not give one. -/
structure LosesPassword (p : Profile) (o : Options) (environment : Environment) : Prop where
  notGiven : o.password = none
  silent : p.auth = false ∨ p.username = some ""
  ne_empty : p.chosenPassword environment ≠ ""

/-- Credentials have the user name of the options, else that of the profile, else the standard one,
and it is never empty. Their password is that of the options, else that of the profile, exactly
unless a profile that sends no login is to give it. -/
theorem credentials_of_controller {p : Profile} {defaults : Defaults} {o : Options}
    {environment : Environment} {c : Harness.Settings} {l : Login}
    (hcontroller : (p.controller defaults environment >>= o.controller) = .ok c)
    (hlogin : c.login = some l) :
    l.username = o.username.getD (p.username.getD Profile.standardUsername) ∧ l.username ≠ "" ∧
      (l.password = o.password.getD (p.chosenPassword environment) ↔
        ¬ LosesPassword p o environment) := by
  rw [controller_login p defaults o environment c hcontroller] at hlogin
  have hnamed := Options.username_ne_of_login?
    (fun _ hl => Profile.username_ne_of_login? (Option.mem_def.mp hl)) hlogin
  have hchosen := Options.eq_of_login? hlogin
  cases hbase : p.login? environment with
  | some base =>
      have hsends : ¬ LosesPassword p o environment := by
        intro hloses
        rw [Profile.login?_eq_none_iff.mpr hloses.silent] at hbase
        nomatch hbase
      rw [hbase, Profile.eq_of_login? hbase] at hchosen
      subst hchosen
      exact ⟨rfl, hnamed, fun _ => hsends, fun _ => rfl⟩
  | none =>
      have hsilent := Profile.login?_eq_none_iff.mp hbase
      rw [hbase] at hchosen
      subst hchosen
      -- with no login to start from, the user name was given
      cases husername : o.username with
      | none => exact absurd (by rw [husername]; rfl) hnamed
      | some username =>
          refine ⟨rfl, by rwa [husername] at hnamed, ?_⟩
          cases hpassword : o.password with
          | some password =>
              refine ⟨fun _ hloses => ?_, fun _ => rfl⟩
              rw [hloses.notGiven] at hpassword
              nomatch hpassword
          | none =>
              constructor
              · intro hempty hloses
                exact hloses.ne_empty hempty.symm
              · intro hkeeps
                by_contra hempty
                exact hkeeps ⟨hpassword, hsilent, Ne.symm hempty⟩

def asOps : Options := { Running.bareOptions with username := some "ops" }

def opsProfile : Profile := { Profile.blank with passwordEnv := some "OPS_PASSWORD" }

theorem asOps_controller {p : Profile} (hhost : p.host = Profile.blank.host)
    (hport : p.port = Profile.blank.port) (environment : Environment) :
    ∃ c, (p.controller .standard environment >>= asOps.controller) = .ok c ∧
      c.login = asOps.login? (p.login? environment) := by
  obtain ⟨base, hbase⟩ : ∃ base, p.controller .standard environment = .ok base := by
    unfold Profile.controller
    rw [hhost, hport, standard_accepted]
    exact ⟨_, rfl⟩
  obtain ⟨c, hc⟩ : ∃ c, (p.controller .standard environment >>= asOps.controller) = .ok c := by
    rw [hbase]
    exact ⟨_, rfl⟩
  exact ⟨c, hc, controller_login p .standard asOps environment c hc⟩

theorem credentials_of_variable :
    ∃ c l, (opsProfile.controller .standard [("OPS_PASSWORD", "tiger")] >>= asOps.controller) =
        .ok c ∧ c.login = some l ∧ l.username = "ops" ∧ l.password = "tiger" := by
  obtain ⟨c, hc, hlogin⟩ := asOps_controller (p := opsProfile) rfl rfl [("OPS_PASSWORD", "tiger")]
  obtain ⟨husername, -, hpassword⟩ := credentials_of_controller hc hlogin
  refine ⟨c, _, hc, hlogin, husername, hpassword.mpr fun hloses => ?_⟩
  exact absurd hloses.silent (by decide)

def silentProfile : Profile := { Profile.blank with auth := false, password := some "tiger" }

theorem silentProfile_losesPassword :
    ∃ c, (silentProfile.controller .standard [] >>= asOps.controller) = .ok c ∧
      c.login = some ⟨"ops", ""⟩ ∧
      asOps.password.getD (silentProfile.chosenPassword []) = "tiger" := by
  obtain ⟨c, hc, hlogin⟩ := asOps_controller (p := silentProfile) rfl rfl []
  exact ⟨c, hc, hlogin, rfl⟩

end Command

end FlowConsole
