import FlowConsole.Proofs.Command.Spelling
import FlowConsole.Proofs.Command.Traffic
import FlowConsole.Proofs.Restconf.AcceptedHost
/-!
Runs with `--no-auth`.

The switch closes every way to a login: that of the profile, of its variables, of the options and of
the variables that stand in for them. What it leaves open is the host, whose text may bring user
information into every URL. A run with the switch sends a header for credentials exactly if the host
does.
-/
namespace FlowConsole.Command

open Http (Client Controller)

theorem Options.controller_login (o : Options) (c : Harness.Settings) :
    Yields (o.controller c) fun chosen => chosen.login = o.login? c.login := by
  unfold Options.controller
  cases o.host with
  | none => exact yields_ok rfl
  | some host => exact yields_bind fun _ => yields_ok rfl

section

variable {o : Options} (hnoAuth : o.noAuth = true)
include hnoAuth

theorem Settings.ofConfig_login (c : Config) (environment : Environment) :
    Yields (Settings.ofConfig c o environment) fun chosen => chosen.controller.login = none := by
  unfold Settings.ofConfig
  split
  · exact yields_error _
  · refine yields_bind fun profile => ?_
    refine (Options.controller_login o profile).bind fun controller h => ?_
    exact yields_bind fun format => yields_ok (h.trans (if_pos hnoAuth))

theorem Running.settings_login (s : Surroundings) (e : Effects) :
    Yields (settings s o e).1 fun chosen => chosen.controller.login = none := by
  rw [settings_apply]
  refine Yields.mapError ?_ _
  exact yields_bind fun c => Settings.ofConfig_login hnoAuth c s.environment

end

theorem usesCredentials_of_login {c : Harness.Settings} (h : c.login = none) :
    c.client.usesCredentials = false := by
  simp [Harness.Settings.client, h, Client.usesCredentials, Client.usableCredentials?]

/-- What a run with `--no-auth` sends: nothing if it comes to no settings, and otherwise requests
that carry credentials exactly if the host that was chosen brings some. -/
theorem Arguments.run_noAuth {s : Surroundings} {words : List String} {a : Arguments}
    (hparse : parse s.environment words = .ok a)
    (hmem : "--no-auth" ∈ words.takeWhile (· != "--")) (e : Effects) :
    ∃ sent, (a.run s e).2.controller.log = e.controller.log ++ sent ∧
      (∀ problem, (Running.settings s a.options e).1 = .error problem → sent = []) ∧
      ∀ chosen, (Running.settings s a.options e).1 = .ok chosen →
        ∀ request ∈ sent,
          (request.isAuthorized ↔ chosen.controller.client.hostCredentials?.isSome) := by
  have hnoAuth := noAuth_of_mem hparse hmem
  rcases Running.command_sends s a.options (a.command.getD .menu) e with
    hsame | ⟨chosen, hchosen, hsends⟩
  · refine ⟨[], ?_, fun _ _ => rfl, by simp⟩
    rw [List.append_nil]
    exact congrArg Controller.log hsame
  · obtain ⟨sent, hlog, hsent⟩ := hsends.log
    refine ⟨sent, hlog, ?_, ?_⟩
    · intro problem hproblem
      rw [hchosen] at hproblem
      simp at hproblem
    · intro chosen' hchosen' request hrequest
      rw [hchosen] at hchosen'
      obtain rfl := Except.ok.inj hchosen'
      have hnone := Running.settings_login hnoAuth s e chosen hchosen
      rw [Client.isAuthorized_iff (hsent request hrequest), usesCredentials_of_login hnone]
      simp

/-! ## Asking for the topology -/

theorem Running.controller_bind {α β : Type} (x : Running α) {f : α → Running β}
    (hf : ∀ a, Follows Effects.SameController (f a)) (e : Effects) :
    ((x >>= f) e).2.controller = (x e).2.controller := by
  cases h : x e with
  | mk r e' =>
      cases r with
      | error problem => rw [bind_error h]
      | ok a =>
          rw [bind_ok h]
          exact hf a e'

theorem Running.onSession_controller {α : Type} (chosen : Settings) (action : Restconf.Action α)
    (e : Effects) :
    (onSession chosen (Harness.lift action) e).2.controller =
      (action (Harness.connect chosen.controller e.controller)).2.controller := rfl

theorem Running.topology_controller {chosen : Settings} {request : Http.Request}
    (h : chosen.controller.client.prepare .get Restconf.Path.topology none = .ok request)
    (e : Effects) : (topology chosen e).2.controller = (e.controller.receive request).2 := by
  unfold topology
  rw [controller_bind _ fun _ => printResult_same _ _, onSession_controller,
    Restconf.Session.topology_apply, Restconf.Session.exchange_ok
      (s := Harness.connect chosen.controller e.controller) h]
  rfl

theorem Running.namingProfile_snd (profile : String) (run : Running Unit) (e : Effects) :
    (namingProfile profile run e).2 = (run e).2 := rfl

theorem Running.withSettings_topology (s : Surroundings) (chosen : Settings) (e : Effects) :
    (withSettings s .topology chosen e).2 = (topology chosen e).2 := by
  unfold withSettings
  rw [get_bind_apply, namingProfile_snd, onController]

/-- A home directory without files, and nothing in the environment. -/
def bareSurroundings : Surroundings :=
  { home := "/home/operator", environment := [], input := "" }

def bareStart : Effects :=
  { files := .empty [], controller := .scripted [], output := "", notices := "" }

theorem Settings.ofConfig_ok {c : Config} {o : Options} {environment : Environment}
    {profile : String} {p : Profile} {base controller : Harness.Settings} {format : Report.Format}
    (hprofile : c.profile? o.profile = some (profile, p))
    (hbase : p.controller c.defaults environment = .ok base)
    (hcontroller : o.controller base = .ok controller)
    (hformat : o.format c.defaults.output = .ok format) :
    Settings.ofConfig c o environment =
      .ok { profile, controller
            fixturesDir := o.fixturesDir.getD c.defaults.fixturesDir
            extension := o.extension.getD c.defaults.extension
            format, color := o.color.isOn, quiet := o.quiet, yes := o.yes } := by
  unfold Settings.ofConfig
  rw [hprofile]
  dsimp only
  rw [hbase]
  change (o.controller base >>= fun controller => o.format c.defaults.output >>= _) = _
  rw [hcontroller]
  change (o.format c.defaults.output >>= _) = _
  rw [hformat]
  rfl

def topologyWords (host : String) : List String := ["--no-auth", "--host", host, "topology"]

def topologyArguments (host : String) : Arguments :=
  { options :=
      { profile := none, host := some host, port := none, username := none, password := none
        noAuth := true, timeout := none, node := none, table := none, fixturesDir := none
        extension := none, output := none, color := .auto, verbose := 0, quiet := false
        yes := false }
    command := some .topology }

def topologySettings (host : String) : Settings :=
  { profile := "default"
    controller := { host, port := 8181, login := none, timeout := none, node := 1, table := 0 }
    fixturesDir := ".", extension := "json", format := .table, color := false, quiet := false
    yes := false }

theorem bareStart_fileSettings :
    Config.fileSettings bareStart.files bareSurroundings.configPath = .ok (.map .file []) := by
  have hpath : bareSurroundings.configPath.isEmpty = false ∧
      '\x00' ∉ bareSurroundings.configPath.toList ∧
      Files.Path.isAbsolute bareSurroundings.configPath = true ∧
      Files.Path.components bareSurroundings.configPath =
        ["home", "operator", ".config", "cableflow", "config.toml"] := by decide
  obtain ⟨hne, hnul, habsolute, hcomponents⟩ := hpath
  have hwalk : Files.Tree.walk bareStart.files.root true Files.Tree.linkLimit []
      ["home", "operator", ".config", "cableflow", "config.toml"] = .error .notFound := by
    rw [Files.Tree.walk]
    rfl
  have hplace : bareStart.files.place true bareSurroundings.configPath = .error .notFound := by
    unfold Files.Tree.place
    simp only [hne, hnul, habsolute, hcomponents, Bool.true_or, Bool.false_eq_true, if_true,
      if_false, hwalk]
  unfold Config.fileSettings Files.Tree.isFile Files.Tree.find
  rw [hplace]
  rfl

theorem bareStart_config :
    Running.loadedConfig bareSurroundings bareStart.files = .ok .standard := by
  unfold Running.loadedConfig Config.load
  rw [bareStart_fileSettings]
  rfl

theorem standard_accepted : Config.checkHost Profile.blank.host Profile.blank.port = .ok () := by
  have hname : Url.IsHostName "127.0.0.1".toList := by decide
  have haddress : Url.ipv4OfText? (Url.lowerName "127.0.0.1".toList) = some 2130706433 := by decide
  exact Config.checkHost_of_isPlainHost (hname.isPlainHost_ipv4 (by decide) (by decide) haddress)
    (by decide)

theorem standard_controller :
    Profile.standard.controller Defaults.standard [] = .ok Harness.Settings.standard := by
  have haccept : Config.checkHost Profile.standard.host Profile.standard.port = .ok () :=
    standard_accepted
  unfold Profile.controller
  rw [haccept]
  rfl

theorem format_table {o : Options} (h : o.output = none) : o.format "table" = .ok .table := by
  have hlower : "table".map Char.toLower = "table" := by
    rw [← String.toList_inj, String.toList_map]
    rfl
  unfold Options.format
  rw [h, hlower]
  rfl

theorem bareSettings {o : Options} {controller : Harness.Settings} {e : Effects}
    (hfiles : e.files = bareStart.files) (hprofile : o.profile = none)
    (hcontroller : o.controller .standard = .ok controller) (houtput : o.output = none) :
    (Running.settings bareSurroundings o e).1 =
      .ok { profile := "default", controller
            fixturesDir := o.fixturesDir.getD Defaults.standard.fixturesDir
            extension := o.extension.getD Defaults.standard.extension
            format := .table, color := o.color.isOn, quiet := o.quiet, yes := o.yes } := by
  have hselected : Config.standard.profile? o.profile = some ("default", .standard) := by
    rw [hprofile]
    rfl
  have hchosen := Settings.ofConfig_ok hselected standard_controller hcontroller
    (format_table houtput)
  have henvironment : bareSurroundings.environment = [] := rfl
  have hloaded : ∀ f : Config → Except Config.Error Settings,
      (Except.ok Config.standard >>= f) = f .standard := fun _ => rfl
  rw [Running.settings_apply, hfiles, bareStart_config, hloaded, henvironment, hchosen]
  rfl

section

variable {host : String} (haccept : Config.checkHost host 8181 = .ok ())
include haccept

theorem topologyArguments_controller :
    (topologyArguments host).options.controller .standard =
      .ok (topologySettings host).controller := by
  change (Config.checkHost host 8181 >>= fun _ => .ok (topologySettings host).controller) = _
  rw [haccept]
  rfl

theorem bareStart_settings :
    (Running.settings bareSurroundings (topologyArguments host).options bareStart).1 =
      .ok (topologySettings host) :=
  bareSettings rfl rfl (topologyArguments_controller haccept) rfl

theorem run_topology {request : Http.Request}
    (hprepare : (topologySettings host).controller.client.prepare .get Restconf.Path.topology none =
      .ok request) :
    ((topologyArguments host).run bareSurroundings bareStart).2.controller.log = [request] := by
  have hrun : (topologyArguments host).run bareSurroundings bareStart =
      Running.withSettings bareSurroundings .topology (topologySettings host) bareStart :=
    Running.command_of_settings .topology (bareStart_settings haccept)
  rw [hrun, Running.withSettings_topology, Running.topology_controller hprepare]
  rfl

end

theorem run_noAuth_localhost :
    ∃ a request, Arguments.parse [] (topologyWords "localhost") = .ok a ∧
      (a.run bareSurroundings bareStart).2.controller.log = [request] ∧
        ¬ request.isAuthorized := by
  have hplain : (topologySettings "localhost").controller.client.IsPlain (.domain "localhost") :=
    ⟨Client.ofLocalhost_isPlain.isHost, by decide, Client.ofLocalhost_isPlain.sendable⟩
  have haccept : Config.checkHost "localhost" 8181 = .ok () :=
    Config.checkHost_of_isPlainHost hplain.isHost (by decide)
  have hbare : Url.IsBareHost "localhost".toList :=
    ⟨by decide, by decide, Url.hasNoUserInfo_of_not_mem (by decide)⟩
  have hnone : (topologySettings "localhost").controller.client.hostCredentials? = none :=
    Restconf.hostCredentials?_eq_none hplain.isPort haccept hbare
  have hlog := run_topology haccept
    (hplain.prepare_eq .get Restconf.Path.isAbsolute_topology none)
  have hparse : Arguments.parse bareSurroundings.environment (topologyWords "localhost") =
      .ok (topologyArguments "localhost") := rfl
  obtain ⟨sent, hsent, -, hauthorized⟩ := Arguments.run_noAuth hparse (by decide) bareStart
  rw [hlog] at hsent
  obtain rfl : [_] = sent := hsent
  have hiff := hauthorized _ (bareStart_settings haccept) _ (List.mem_singleton_self _)
  refine ⟨topologyArguments "localhost", _, hparse, hlog, ?_⟩
  rw [hiff, hnone]
  decide

def loginHost : String := "u:p@localhost"

def loginSite : Url := Url.siteOf ['u', ':', 'p'] (.domain "localhost") (some 8181)

theorem loginHost_toList : loginHost.toList = ['u', ':', 'p'] ++ '@' :: "localhost".toList := by
  decide

theorem loginHost_parse (t : List Char) :
    Url.parseChars (Url.httpText loginHost.toList 8181 ++ '/' :: t) =
      .ok (Url.locate loginSite true ('/' :: Url.cleanEnd t)) := by
  have hhost : Url.IsPlainHost "localhost".toList (.domain "localhost") :=
    Client.ofLocalhost_isPlain.isHost
  have hinfo : ∀ c ∈ ['u', ':', 'p'], c = ':' ∨ Url.isSign c = false := by
    intro c hc
    simp only [List.mem_cons, List.not_mem_nil, or_false] at hc
    rcases hc with rfl | rfl | rfl <;> decide
  rw [loginHost_toList, hhost.parseChars_userInfo hinfo (by decide)]
  rfl

/-- It is accepted, and the run sends that login in a header although `--no-auth` is given. -/
theorem run_noAuth_sends_login :
    Config.checkHost loginHost 8181 = .ok () ∧
      ∃ a request, Arguments.parse [] (topologyWords loginHost) = .ok a ∧
        (a.run bareSurroundings bareStart).2.controller.log = [request] ∧
          ("authorization", "Basic dTpw") ∈ request.headers := by
  have haccept : Config.checkHost loginHost 8181 = .ok () :=
    Config.checkHost_ok (by decide) (loginHost_parse []) rfl rfl
  obtain ⟨rest, hrest⟩ := Restconf.Path.isAbsolute_topology
  have hurl : Url.parse ((topologySettings loginHost).controller.client.urlText
      Restconf.Path.topology) = .ok (Url.locate loginSite true ('/' :: Url.cleanEnd rest)) := by
    rw [Url.parse, Client.urlText_toList _ hrest]
    exact loginHost_parse rest
  have hcredentials : Client.urlCredentials?
      (Url.locate loginSite true ('/' :: Url.cleanEnd rest)) =
        some { username := "u", password := "p" } := by
    have hsite : Client.urlCredentials? loginSite =
        some { username := "u", password := "p" } := by decide +kernel
    exact hsite
  have hhost : Client.isRequestHost
      (Url.locate loginSite true ('/' :: Url.cleanEnd rest)) = true := by
    rw [Client.isRequestHost_locate]
    decide
  have hlog := run_topology haccept (Client.prepare_ok hurl hhost .get none)
  refine ⟨haccept, topologyArguments loginHost, _, rfl, hlog, ?_⟩
  unfold Client.request
  rw [hcredentials]
  exact List.mem_cons_self

end FlowConsole.Command
