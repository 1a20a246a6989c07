import FlowConsole.Proofs.Command.LocalError
import FlowConsole.Proofs.Command.Plan
import FlowConsole.Proofs.Command.Presentation
/-!
Exit codes of the commands on a controller.

A command that has its settings, and its record if it needs one, carries out a plan: the exit code
is that which the answers come to. A host that fits into no request is one that cannot be reached.
-/
namespace FlowConsole

open Http (Client Controller Request)
open Json (Value)
open Restconf (Invocation Session Target)

namespace Command

def severalChanges : List Target :=
  (Harness.severalFlows.map Record.Builtin.record).filterMap fun flow =>
    (Invocation.addFlow flow).target?

/-- The plan of a command with settings; none for a command that is not done on a controller, that
lacks a confirmation, or whose record does not exist or has no key. -/
def planOf? (chosen : Settings) (e : Effects) (c : Command) : Option Plan :=
  let h := Harness.ofSettings chosen.controller (Running.storeOf chosen c e.files)
  let change (operation : Value → Invocation) (argument : String) : Option Plan :=
    ((Running.record h argument e).1.toOption.bind fun v => (operation v).target?).map fun t =>
      .writing [t]
  match c with
  | .topology => some (.reading Restconf.Path.topology false)
  | .stats => some (.reading Restconf.Path.statistics false)
  | .flows .list => some (.reading (Restconf.Path.flowTable h.node h.table) true)
  | .flows (.add argument) => change .addFlow argument
  | .flows .addSeveral => some (.writing severalChanges)
  | .flows (.update argument) => change .updateFlow argument
  | .flows (.remove argument) => change .removeFlow argument
  | .flows .removeAll => if chosen.yes then some (.sweeping h.node h.table) else none
  | .cmts (.add argument) => change .addCmts argument
  | .cmts (.remove argument) => change .removeCmts argument
  | .menu | .fixtures _ | .config _ | .completions _ => none

/-! ## Hosts that fit into no request -/

def unreachedCode : Nat := 7

section

variable {α : Type} {action : Restconf.Action α}

abbrev FailsUnsent {ε : Type} (code : ε → Nat) (x : ExceptT ε (StateM Session) α) : Prop :=
  FailsWith (fun s => s.client.IsUnsendable) (fun e => code e = unreachedCode) x

theorem failsUnsent_of_run (op : Invocation) (hrun : ∀ s, op.run s = Invocation.outcome action s)
    (hsome : op.target?.isSome) : FailsUnsent callCode action := by
  obtain ⟨t, ht⟩ := Option.isSome_iff_exists.mp hsome
  intro s hs
  obtain ⟨url, hprepare⟩ := hs t.method t.path t.payload (Invocation.target?_isAbsolute ht)
  have hfailed := (hrun s).symm.trans (Invocation.run_eq_exchange ht s)
  rw [Session.exchange_error hprepare] at hfailed
  have haction := Invocation.outcome_eq_some_iff.mp hfailed
  exact ⟨_, congrArg Prod.fst haction, rfl⟩

theorem lift_failsUnsent (h : FailsUnsent callCode action) :
    FailsUnsent harnessCode (Harness.lift action) := by
  intro s hs
  obtain ⟨e, he, hcode⟩ := h s hs
  refine ⟨.ofHttp e, ?_, hcode⟩
  simp only [Harness.lift]
  rw [he]

end

/-! ## Running a plan -/

/-- Whether a part of a run carries out a plan: it ends as the requests of the plan do, and without
requests it ends as if the controller could not be reached. -/
structure CarriesOut (chosen : Settings) (plan : Plan) (x : Running Unit) (e : Effects) : Prop where
  ends : ∀ request, Makes chosen.controller.client request →
    Ends chosen.controller.timeout ((plan.targets e.controller).map request) (plan.verdict e.controller) e.controller
      (endCode Error.exitCode (x e).1) (x e).2.controller
  unsent : chosen.controller.client.IsUnsendable → endCode Error.exitCode (x e).1 = unreachedCode

theorem CarriesOut.of_eq {chosen : Settings} {plan : Plan} {x y : Running Unit} {e e' : Effects}
    (h : CarriesOut chosen plan y e') (hrun : x e = y e') (hsame : e'.controller = e.controller) :
    CarriesOut chosen plan x e := by
  constructor
  · rw [hrun, ← hsame]
    exact h.ends
  · rw [hrun]
    exact h.unsent

namespace Running

variable {chosen : Settings} {plan : Plan}

section

variable {α : Type} {action : Harness.Action α}

theorem carriesOut_onSession (hasks : Asks harnessCode action plan.targets plan.verdict)
    (hunsent : FailsUnsent harnessCode action) {f : α → Running Unit} (hf : ∀ a, Prints (f a))
    (e : Effects) : CarriesOut chosen plan (onSession chosen action >>= f) e := by
  obtain ⟨session, hsession⟩ : ∃ session, session = Harness.connect chosen.controller e.controller :=
    ⟨_, rfl⟩
  have hend : endCode Error.exitCode ((onSession chosen action >>= f) e).1 =
        endCode harnessCode (action session).1 ∧
      ((onSession chosen action >>= f) e).2.controller = (action session).2.controller := by
    have hrun : onSession chosen action e = ((action session).1.mapError .ofHarness,
        { e with controller := (action session).2.controller }) := by
      rw [hsession]
      rfl
    cases haction : (action session).1 with
    | error problem =>
        rw [haction] at hrun
        rw [bind_error hrun]
        exact ⟨rfl, rfl⟩
    | ok a =>
        rw [haction] at hrun
        obtain ⟨hok, hprinted⟩ := hf a { e with controller := (action session).2.controller }
        rw [bind_ok hrun, hok]
        exact ⟨rfl, hprinted.controller⟩
  rw [hsession] at hend
  constructor
  · intro request hmakes
    rw [hend.1, hend.2]
    exact hasks (Harness.connect chosen.controller e.controller) request hmakes
  · intro hhost
    obtain ⟨problem, hproblem, hcode⟩ :=
      hunsent (Harness.connect chosen.controller e.controller) hhost
    rw [hend.1, hproblem]
    exact hcode

end

theorem exitCode_forProfile (name : String) (problem : Error) :
    (problem.forProfile name).exitCode = problem.exitCode := by
  cases problem <;> rfl

theorem endCode_namingProfile (profile : String) (x : Running Unit) (e : Effects) :
    endCode Error.exitCode (namingProfile profile x e).1 = endCode Error.exitCode (x e).1 := by
  have hcode : Error.exitCode ∘ Error.forProfile profile = Error.exitCode :=
    funext fun problem => exitCode_forProfile profile problem
  exact (endCode_mapError _ _).trans (by rw [hcode])

theorem carriesOut_namingProfile {x : Running Unit} {e : Effects} (h : CarriesOut chosen plan x e)
    (profile : String) : CarriesOut chosen plan (namingProfile profile x) e := by
  constructor
  · intro request hmakes
    rw [endCode_namingProfile, namingProfile_snd]
    exact h.ends request hmakes
  · intro hhost
    rw [endCode_namingProfile]
    exact h.unsent hhost

theorem carriesOut_change {h : Harness} {operation : Value → Restconf.Action Restconf.Outcome}
    (op : Value → Invocation) (hrun : ∀ v s, (op v).run s = Invocation.outcome (operation v) s)
    (hjudge : ∀ v, (op v).judge = fun _ => none) {argument : String} {e : Effects}
    (hplan : ((record h argument e).1.toOption.bind fun v => (op v).target?).map
      (fun t => Plan.writing [t]) = some plan) :
    CarriesOut chosen plan (change h chosen operation argument) e := by
  obtain ⟨t, hbind, rfl⟩ := Option.map_eq_some_iff.mp hplan
  obtain ⟨v, hv, ht⟩ := Option.bind_eq_some_iff.mp hbind
  have hrecord : record h argument e = (.ok v, (record h argument e).2) :=
    Prod.ext (Invocation.eq_ok_of_toOption hv) rfl
  have hsame : Effects.SameController e (record h argument e).2 := record_follows h argument e
  have hsome : (op v).target?.isSome := Option.isSome_iff_exists.mpr ⟨t, ht⟩
  refine CarriesOut.of_eq ?_ (bind_ok hrecord _) hsame
  exact carriesOut_onSession (lift_asks (asks_change (op v) ht (hrun v) (hjudge v)))
    (lift_failsUnsent (failsUnsent_of_run (op v) (hrun v) hsome)) (fun _ => prints_printResult _ _) _

theorem map_eq_filterMap {α β : Type} {f : α → Option β} {l : List α} (h : ∀ a ∈ l, (f a).isSome) :
    l.map f = (l.filterMap f).map some := by
  induction l with
  | nil => rfl
  | cons a l ih =>
      obtain ⟨b, hb⟩ := Option.isSome_iff_exists.mp (h a List.mem_cons_self)
      rw [List.map_cons, List.filterMap_cons_some hb, List.map_cons, hb,
        ih fun a ha => h a (List.mem_cons_of_mem _ ha)]

theorem addSeveralFlows_failsUnsent : FailsUnsent harnessCode Harness.addSeveralFlows := by
  have hfirst : (Invocation.addFlow Record.Builtin.flow1.record).target?.isSome := by decide
  exact (lift_failsUnsent (failsUnsent_of_run _ (fun _ => rfl) hfirst)).bind _

theorem carriesOut_sweep (h : Harness) (e : Effects) :
    CarriesOut chosen (.sweeping h.node h.table) (do
      let removals ← onSession chosen h.removeAllFlows
      printResult chosen.quiet (Report.removalsText chosen.format chosen.color removals)) e := by
  have hlisting : FailsUnsent callCode (Session.listFlows h.node h.table) :=
    failsUnsent_of_run (.listFlows h.node h.table) (fun _ => rfl) rfl
  exact carriesOut_onSession (lift_asks (removeAllFlows_asks h.node h.table))
    (lift_failsUnsent (hlisting.bind _)) (fun _ => prints_printResult _ _) e

theorem carriesOut_onController (s : Surroundings) {c : Command} {e : Effects}
    (hplan : planOf? chosen e c = some plan) :
    CarriesOut chosen plan
      (onController s (.ofSettings chosen.controller (storeOf chosen c e.files)) chosen c) e := by
  cases c with
  | topology =>
      obtain rfl := Option.some.inj hplan
      exact carriesOut_onSession (lift_asks topology_asks)
        (lift_failsUnsent (failsUnsent_of_run .topology (fun _ => rfl) rfl))
        (fun _ => prints_printResult _ _) e
  | stats =>
      obtain rfl := Option.some.inj hplan
      exact carriesOut_onSession (lift_asks statistics_asks)
        (lift_failsUnsent (failsUnsent_of_run .statistics (fun _ => rfl) rfl))
        (prints_statistics chosen) e
  | flows command =>
      cases command with
      | list =>
          obtain rfl := Option.some.inj hplan
          exact carriesOut_onSession (lift_asks (listFlows_asks _ _))
            (lift_failsUnsent (failsUnsent_of_run (.listFlows _ _) (fun _ => rfl) rfl))
            (fun _ => prints_printResult _ _) e
      | add argument =>
          exact carriesOut_change .addFlow (fun _ _ => rfl) (fun _ => rfl) hplan
      | addSeveral =>
          obtain rfl := Option.some.inj hplan
          exact carriesOut_onSession
            (addFlows_asks (map_eq_filterMap Harness.severalFlows_addressable))
            addSeveralFlows_failsUnsent (fun _ => prints_printResult _ _) e
      | update argument =>
          exact carriesOut_change .updateFlow (fun _ _ => rfl) (fun _ => rfl) hplan
      | remove argument =>
          exact carriesOut_change .removeFlow (fun _ _ => rfl) (fun _ => rfl) hplan
      | removeAll =>
          simp only [planOf?] at hplan
          split at hplan
          · rename_i hyes
            obtain rfl := Option.some.inj hplan
            refine (carriesOut_sweep _ e).of_eq ?_ rfl
            rw [onController, flows, hyes]
            rfl
          · cases hplan
  | cmts command =>
      cases command with
      | add argument =>
          exact carriesOut_change .addCmts (fun _ _ => rfl) (fun _ => rfl) hplan
      | remove argument =>
          exact carriesOut_change .removeCmts (fun _ _ => rfl) (fun _ => rfl) hplan
  | menu | fixtures _ | config _ | completions _ => cases hplan

theorem isOnController_of_plan {c : Command} {e : Effects} (hplan : planOf? chosen e c = some plan) :
    OnController c := by
  cases c with
  | topology => exact .topology
  | stats => exact .stats
  | flows command => exact .flows command
  | cmts command => exact .cmts command
  | menu | fixtures _ | config _ | completions _ => cases hplan

end Running

/-! ## Settings that were accepted -/

/-- Whether a host was accepted, at its port or at another. -/
def HasAcceptedHost (c : Harness.Settings) : Prop :=
  ∃ port, Config.checkHost c.host port = .ok () ∧ (c.port = port ∨ c.port < 65536)

theorem profile_controller_accepted (p : Profile) (d : Defaults) (environment : Environment) :
    Yields (p.controller d environment) fun c => Config.checkHost c.host c.port = .ok () := by
  unfold Profile.controller
  cases haccept : Config.checkHost p.host p.port with
  | error e => exact yields_error e
  | ok _ => exact yields_ok haccept

section

variable {o : Options} (hport : ∀ port, o.port = some port → port < 65536)
include hport

theorem Options.controller_accepted {c : Harness.Settings}
    (hbase : Config.checkHost c.host c.port = .ok ()) : Yields (o.controller c) HasAcceptedHost := by
  unfold Options.controller
  cases hhost : o.host with
  | none =>
      refine yields_ok ⟨c.port, hbase, ?_⟩
      cases hgiven : o.port with
      | none => exact .inl rfl
      | some port => exact .inr (hport port hgiven)
  | some host =>
      dsimp only
      cases haccept : Config.checkHost host (o.port.getD c.port) with
      | error e => exact yields_error e
      | ok _ => exact yields_ok ⟨o.port.getD c.port, haccept, .inl rfl⟩

theorem Settings.ofConfig_accepted (c : Config) (environment : Environment) :
    Yields (Settings.ofConfig c o environment) fun chosen => HasAcceptedHost chosen.controller := by
  unfold Settings.ofConfig
  split
  · exact yields_error _
  · rename_i profile p _
    refine (profile_controller_accepted p c.defaults environment).bind fun base hbase => ?_
    refine (Options.controller_accepted hport hbase).bind fun controller h => ?_
    exact yields_bind fun format => yields_ok h

theorem Running.settings_accepted (s : Surroundings) (e : Effects) :
    Yields (settings s o e).1 fun chosen => HasAcceptedHost chosen.controller := by
  rw [settings_apply]
  refine Yields.mapError ?_ _
  exact yields_bind fun c => Settings.ofConfig_accepted hport c s.environment

end

/-- Settings with an accepted host reach their controller by requests, or not at all. -/
theorem makes_or_isUnsendable {c : Harness.Settings} (h : HasAcceptedHost c) :
    (∃ request, Makes c.client request) ∨ c.client.IsUnsendable := by
  obtain ⟨port, haccept, hport⟩ := h
  refine (Client.isLocated_or_isUnsendable fun path hpath =>
    Config.exists_url_of_checkHost haccept hport hpath).imp_left fun hlocated => ?_
  obtain ⟨spare, -⟩ := hlocated .get Restconf.Path.topology none Restconf.Path.isAbsolute_topology
  have hmakes : ∀ t : Target, ∃ request, Http.IsAbsolute t.path →
      c.client.prepare t.method t.path t.payload = .ok request := by
    intro t
    by_cases hpath : Http.IsAbsolute t.path
    · obtain ⟨request, hrequest⟩ := hlocated t.method t.path t.payload hpath
      exact ⟨request, fun _ => hrequest⟩
    · exact ⟨spare, fun h => absurd h hpath⟩
  choose request hrequest using hmakes
  exact ⟨request, hrequest⟩

/-- The exit code of a command on a controller, and what the controller got. Requests go out up to
the first that is not answered completely, which decides the code: 8 where the time that is set runs
out, 7 where the controller cannot be reached or the connection fails in another way. If all are
answered the code is 0 for changes, and what the answer comes to for a reading. -/
theorem Arguments.run_exitCode {s : Surroundings} {words : List String} {a : Arguments}
    (hparse : parse s.environment words = .ok a) {e : Effects} {chosen : Settings}
    (hchosen : (Running.settings s a.options e).1 = .ok chosen) {plan : Plan}
    (hplan : planOf? chosen e (a.command.getD .menu) = some plan) :
    let code := endCode Error.exitCode (a.run s e).1
    let after := (a.run s e).2.controller
    (chosen.controller.client.IsUnsendable ∧ code = unreachedCode ∧ after = e.controller) ∨
      ∃ request : Target → Request, Makes chosen.controller.client request ∧
        Ends chosen.controller.timeout ((plan.targets e.controller).map request)
          (plan.verdict e.controller) e.controller code after := by
  have hdone : CarriesOut chosen plan (a.run s) e := by
    refine (Running.carriesOut_namingProfile (Running.carriesOut_onController s hplan)
      chosen.profile).of_eq ?_ rfl
    exact Running.command_of_settings (Running.isOnController_of_plan hplan) hchosen
  have haccepted := Running.settings_accepted (fun port hport => port_lt _ hparse hport) s e
    chosen hchosen
  rcases makes_or_isUnsendable haccepted with ⟨request, hmakes⟩ | hunsendable
  · exact .inr ⟨request, hmakes, hdone.ends request hmakes⟩
  · refine .inl ⟨hunsendable, hdone.unsent hunsendable, ?_⟩
    rcases Running.command_sends s a.options (a.command.getD .menu) e with
      hsame | ⟨chosen', hchosen', hsends⟩
    · exact hsame
    · rw [hchosen] at hchosen'
      obtain rfl := Except.ok.inj hchosen'
      exact hsends.eq_of_prepares_none hunsendable.prepares_none

def confirmedWords : List String := "-y" :: "--timeout" :: "5" :: sweepWords

def confirmedArguments : Arguments :=
  { sweepArguments with options := { sweepArguments.options with yes := true, timeout := some 5 } }

def confirmedSettings : Settings :=
  { topologySettings "localhost" with
    yes := true
    controller := { (topologySettings "localhost").controller with timeout := some 5000 } }

theorem confirmedArguments_controller (haccept : Config.checkHost "localhost" 8181 = .ok ()) :
    confirmedArguments.options.controller .standard = .ok confirmedSettings.controller := by
  change (Config.checkHost "localhost" 8181 >>= fun _ => .ok confirmedSettings.controller) = _
  rw [haccept]
  rfl

def stallingController : Controller :=
  .scripted
    [.reply 200 (Text.Utf8.encode
      "\x7b\"flow\":[\x7b\"id\":\"a\"\x7d,\x7b\"id\":\"b\"\x7d]\x7d".toList),
      .reply 500 [], .hang]

theorem stallingController_lists :
    listedKeys 1 0 stallingController.next = [⟨1, 0, "a", none⟩, ⟨1, 0, "b", none⟩] := by
  decide +kernel

theorem stallingController_verdict (milliseconds : Nat) (request : Target → Request) :
    ((stallingController.exchanges
      (((Plan.sweeping 1 0).targets stallingController).map request)).findSome?
        (faultCode? (some milliseconds))).getD
        ((Plan.sweeping 1 0).verdict stallingController) = 8 := by
  rw [Plan.targets, stallingController_lists]
  rfl

theorem run_stalls :
    Arguments.parse [] confirmedWords = .ok confirmedArguments ∧
      (Running.settings bareSurroundings confirmedArguments.options
        { bareStart with controller := stallingController }).1 = .ok confirmedSettings ∧
      confirmedSettings.controller.timeout = some 5000 ∧
      endCode Error.exitCode (confirmedArguments.run bareSurroundings
        { bareStart with controller := stallingController }).1 = 8 := by
  have hplain : Client.IsPlain confirmedSettings.controller.client (.domain "localhost") :=
    ⟨Client.ofLocalhost_isPlain.isHost, by decide, Client.ofLocalhost_isPlain.sendable⟩
  have haccept : Config.checkHost "localhost" 8181 = .ok () :=
    Config.checkHost_of_isPlainHost hplain.isHost (by decide)
  have hchosen : (Running.settings bareSurroundings confirmedArguments.options
      { bareStart with controller := stallingController }).1 = .ok confirmedSettings :=
    bareSettings rfl rfl (confirmedArguments_controller haccept) rfl
  have hparse : Arguments.parse bareSurroundings.environment confirmedWords =
      .ok confirmedArguments := rfl
  refine ⟨hparse, hchosen, rfl, ?_⟩
  have hplan : planOf? confirmedSettings { bareStart with controller := stallingController }
      (.flows .removeAll) = some (.sweeping 1 0) := rfl
  rcases Arguments.run_exitCode hparse hchosen hplan with
    ⟨hunsendable, -⟩ | ⟨request, -, hends⟩
  · have hprepare := hplain.prepare_eq .get Restconf.Path.isAbsolute_topology none
    exact absurd ⟨_, _, _, Restconf.Path.isAbsolute_topology, hprepare⟩
      (hunsendable.prepares_none _)
  · exact hends.code.trans (stallingController_verdict 5000 request)

end Command

end FlowConsole
