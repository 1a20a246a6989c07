import FlowConsole.Proofs.Command.Secrecy
import FlowConsole.Proofs.Config.RefusedHost
/-!
Options over a profile.

What an option gives is not looked for in the profile or in the defaults. The host is the exception:
that of the profile is checked even if it is not the one to be called, so a profile that has none
to speak of cannot be mended by an option.
-/
namespace FlowConsole.Command

/-- A profile with the options over it and the defaults below. -/
def Options.over (o : Options) (d : Defaults) (p : Profile) : Profile :=
  { p with
    host := o.host.getD p.host, port := o.port.getD p.port
    timeout := o.timeout.or (p.timeout.or d.timeout)
    node := o.node.getD p.node, table := o.table.getD p.table }

/-- The hosts that are checked, in this order. -/
def Options.hosts (o : Options) (p : Profile) : List String := p.host :: o.host.toList

def Options.settings (o : Options) (environment : Environment) (p : Profile) : Harness.Settings :=
  { host := p.host, port := p.port, login := o.login? (p.login? environment)
    timeout := p.timeout.map Profile.milliseconds, node := p.node, table := p.table }

theorem controller_over {o : Options} {p : Profile} (hp : p.port < 65536)
    (ho : ∀ port, o.port = some port → port < 65536) (d : Defaults) (environment : Environment) :
    (p.controller d environment >>= o.controller) =
      (forM (o.hosts p) fun host => Config.checkHost host Restconf.defaultPort) >>= fun _ =>
        .ok (o.settings environment (o.over d p)) := by
  have hstandard : Restconf.defaultPort < 65536 := by decide
  have hport : o.port.getD p.port < 65536 := by
    cases h : o.port with
    | none => exact hp
    | some port => exact ho port h
  have htimeout : (o.timeout.map Profile.milliseconds).or
      ((p.timeout.or d.timeout).map Profile.milliseconds) =
        (o.timeout.or (p.timeout.or d.timeout)).map Profile.milliseconds := by
    cases o.timeout <;> rfl
  unfold Profile.controller Options.controller Options.hosts Options.settings Options.over
  rw [Config.checkHost_anyPort p.host hp hstandard, List.forM_cons, ← htimeout]
  cases Config.checkHost p.host Restconf.defaultPort with
  | error e => rfl
  | ok _ =>
      cases o.host with
      | none => rfl
      | some host =>
          change (Config.checkHost host (o.port.getD p.port) >>= fun _ => _) = _
          rw [Config.checkHost_anyPort host hport hstandard]
          change _ = (Config.checkHost host Restconf.defaultPort >>= fun _ => Except.ok ()) >>= _
          cases Config.checkHost host Restconf.defaultPort <;> rfl

/-- Two profiles in which the options leave no difference reach the same controller, or fail in the
same way, exactly if the first host that is refused is the same. -/
theorem controller_eq_iff {o : Options} {p p' : Profile} (hp : p.port < 65536)
    (hp' : p'.port < 65536) (ho : ∀ port, o.port = some port → port < 65536) {d d' : Defaults}
    (h : o.over d p = o.over d' p') (environment : Environment) :
    (p.controller d environment >>= o.controller) =
        (p'.controller d' environment >>= o.controller) ↔
      Config.refused? (o.hosts p) = Config.refused? (o.hosts p') := by
  rw [controller_over hp ho, controller_over hp' ho, h]
  exact Config.forM_checkHost_bind_eq_iff _ _ _

def labOptions : Options :=
  { Running.bareOptions with
    host := some "10.200.90.1", port := some 9000, timeout := some 3, node := some 2
    table := some 1 }

def farProfile : Profile :=
  { Profile.blank with
    host := "localhost", port := 6653, timeout := some 30, node := 7, table := 9 }

def hostlessProfile : Profile := { Profile.blank with host := "" }

theorem labOptions_ports : ∀ port, labOptions.port = some port → port < 65536 := by
  rintro _ ⟨⟩
  decide

theorem labOptions_refused? {p : Profile}
    (h : Config.checkHost p.host Restconf.defaultPort = .ok ()) :
    Config.refused? (labOptions.hosts p) = none := by
  have hname : Url.IsHostName "10.200.90.1".toList := by decide
  have haddress : Url.ipv4OfText? (Url.lowerName "10.200.90.1".toList) = some 180902401 := by decide
  rw [Config.refused?_eq_none_iff]
  intro host hhost
  rcases List.mem_pair.mp hhost with rfl | rfl
  · exact h
  · exact Config.checkHost_of_isPlainHost
      (hname.isPlainHost_ipv4 (by decide) (by decide) haddress) (by decide)

/-- Where both profiles have a host to speak of, the options are all that matters. -/
theorem farProfile_overridden :
    (Profile.blank.controller .standard [] >>= labOptions.controller) =
      (farProfile.controller { Defaults.standard with timeout := some 60 } [] >>=
        labOptions.controller) := by
  have hover : labOptions.over .standard .blank =
      labOptions.over { Defaults.standard with timeout := some 60 } farProfile := rfl
  have hfar : Config.checkHost farProfile.host Restconf.defaultPort = .ok () :=
    Config.checkHost_of_isPlainHost Http.Client.ofLocalhost_isPlain.isHost (by decide)
  refine (controller_eq_iff (by decide) (by decide) labOptions_ports hover []).mpr ?_
  rw [labOptions_refused? standard_accepted, labOptions_refused? hfar]

/-- The host of a profile is checked even where it is not the one to be called. -/
theorem hostlessProfile_refused :
    labOptions.over .standard hostlessProfile = labOptions.over .standard .blank ∧
      (∃ c, (Profile.blank.controller .standard [] >>= labOptions.controller) = .ok c) ∧
      (hostlessProfile.controller .standard [] >>= labOptions.controller) =
        .error (.invalid "host" "host is empty") := by
  refine ⟨rfl, ?_, rfl⟩
  rw [controller_over (by decide) labOptions_ports, Config.forM_checkHost,
    labOptions_refused? standard_accepted]
  exact ⟨_, rfl⟩

end FlowConsole.Command
