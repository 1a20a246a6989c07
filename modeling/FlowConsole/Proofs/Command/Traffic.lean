import FlowConsole.Command.Run
import FlowConsole.Proofs.Menu.Traffic
/-!
What a command sends.

A command chooses its settings first and sends nothing until it has them. From then on every request
is one of the client that the settings describe.
-/
namespace FlowConsole

open Http (Client)

namespace Harness

def Settings.client (s : Settings) : Client :=
  { host := s.host, port := s.port, path := none
    credentials := s.login.map fun l => { username := l.username, password := l.password }
    timeout := s.timeout }

end Harness

namespace Command

open Restconf (Session)
open Restconf.Session (Issues)

def Effects.SameController (before after : Effects) : Prop := after.controller = before.controller

instance : IsPreorder Effects Effects.SameController where
  refl _ := rfl
  trans _ _ _ h h' := h'.trans h

/-- Whether the controller got from one state of a run to another by requests of a client. -/
def Effects.Sends (c : Client) (before after : Effects) : Prop :=
  c.Sends before.controller after.controller

instance (c : Client) : IsPreorder Effects (Effects.Sends c) where
  refl e := refl e.controller
  trans _ _ _ := trans_of c.Sends

theorem Effects.SameController.sends {before after : Effects}
    (h : Effects.SameController before after) (c : Client) : Effects.Sends c before after := by
  unfold Effects.Sends
  rw [h]
  exact refl before.controller

namespace Running

/-! ## What changes nothing -/

section

variable {α : Type} {R : Effects → Effects → Prop} [IsPreorder Effects R]

theorem ofExcept_follows (r : Except Error α) : Follows R (ofExcept r) := by
  cases r with
  | error e => exact follows_throw e
  | ok a => exact follows_pure a

theorem ofConfig_follows (s : Surroundings) (r : Except Config.Error α) :
    Follows R (ofConfig s r) :=
  follows_get.bind fun _ => ofExcept_follows _

theorem settings_follows (s : Surroundings) (o : Options) : Follows R (settings s o) :=
  follows_get.bind fun _ => ofConfig_follows s _

theorem record_follows (h : Harness) (argument : String) : Follows R (record h argument) := by
  unfold record
  refine follows_get.bind fun e => ?_
  split
  · split
    · exact follows_throw _
    · split
      · exact follows_pure _
      · exact follows_throw _
  · exact ofExcept_follows _

end

/-! ## What sends nothing -/

theorem print_same (text : String) : Follows Effects.SameController (print text) := fun _ => rfl

theorem notify_same (text : String) : Follows Effects.SameController (notify text) := fun _ => rfl

theorem printResult_same (quiet : Bool) (text : String) :
    Follows Effects.SameController (printResult quiet text) := by
  unfold printResult
  split
  · exact follows_pure _
  · exact print_same _

theorem initialise_same (s : Surroundings) (quiet force : Bool) :
    Follows Effects.SameController (initialise s quiet force) := by
  have hdone : ∀ r : Except Config.Error Unit, Follows Effects.SameController (do
      ofConfig s r
      if !quiet then
        notify s!"✓ Configuration written to {s.configPath}\n  Test it: cableflow topology\n") := by
    intro r
    refine (ofConfig_follows s r).bind fun _ => ?_
    split
    · exact notify_same _
    · exact follows_pure _
  unfold initialise
  refine follows_get_bind fun e => ?_
  generalize Config.save .starter s.configPath e.files = saved
  have hset : (set { e with files := saved.2 } : Running Unit) e =
      (.ok (), { e with files := saved.2 }) := rfl
  dsimp only
  split
  · rfl
  · rw [bind_ok hset]
    exact hdone saved.1 { e with files := saved.2 }

theorem configuration_same (s : Surroundings) (o : Options) (c : Configuration) :
    Follows Effects.SameController (configuration s o c) := by
  cases c with
  | init force => exact initialise_same s o.quiet force
  | «show» => exact (settings_follows s o).bind fun _ => printResult_same _ _
  | path => exact print_same _
  | profiles =>
      refine follows_get.bind fun e => (ofConfig_follows s _).bind fun c => ?_
      split
      · exact notify_same _
      · exact print_same _

theorem fixtures_same (settings : Settings) (command : Fixtures) :
    Follows Effects.SameController (fixtures settings command) := by
  refine follows_get.bind fun e => (ofExcept_follows _).bind fun store => ?_
  cases command with
  | list => exact printResult_same _ _
  | «show» name =>
      dsimp only
      split
      · exact printResult_same _ _
      · exact follows_throw _

/-! ## What calls the controller -/

section

variable {α : Type} (settings : Settings)

theorem sends_of_same {x : Running α} (h : Follows Effects.SameController x) :
    Follows (Effects.Sends settings.controller.client) x :=
  h.mono fun _ _ hsame => hsame.sends settings.controller.client

theorem printResult_sends (quiet : Bool) (text : String) :
    Follows (Effects.Sends settings.controller.client) (printResult quiet text) :=
  sends_of_same settings (printResult_same quiet text)

theorem onSession_sends {action : Harness.Action α} (h : Follows Issues action) :
    Follows (Effects.Sends settings.controller.client) (onSession settings action) :=
  fun e => (h (Harness.connect settings.controller e.controller)).sends

theorem change_sends (h : Harness) {operation : Json.Value → Restconf.Action Restconf.Outcome}
    (hoperation : ∀ v, Follows Issues (operation v)) (argument : String) :
    Follows (Effects.Sends settings.controller.client)
      (change h settings operation argument) := by
  refine (record_follows h argument).bind fun v => ?_
  refine (onSession_sends settings (Harness.follows_lift (hoperation v))).bind fun outcome => ?_
  exact printResult_sends settings _ _

theorem flows_sends (h : Harness) (command : Flows) :
    Follows (Effects.Sends settings.controller.client) (flows h settings command) := by
  cases command with
  | list =>
      refine (onSession_sends settings (Harness.follows_lift
        (Session.listFlows_issues h.node h.table))).bind fun listing => ?_
      exact printResult_sends settings _ _
  | add argument => exact change_sends settings h Session.addFlow_issues argument
  | addSeveral =>
      refine (onSession_sends settings (Harness.addFlows_issues _)).bind fun outcomes => ?_
      exact printResult_sends settings _ _
  | update argument => exact change_sends settings h Session.updateFlow_issues argument
  | remove argument => exact change_sends settings h Session.removeFlow_issues argument
  | removeAll =>
      have hsweep : Follows (Effects.Sends settings.controller.client) (do
          let removals ← onSession settings h.removeAllFlows
          printResult settings.quiet
            (Report.removalsText settings.format settings.color removals)) := by
        refine (onSession_sends settings (Harness.follows_lift
          (Session.removeAllFlows_issues h.node h.table))).bind fun removals => ?_
        exact printResult_sends settings _ _
      unfold flows
      dsimp only
      split
      · exact (follows_throw _).bind fun _ => hsweep
      · exact hsweep

theorem cmts_sends (h : Harness) (command : Cmts) :
    Follows (Effects.Sends settings.controller.client) (cmts h settings command) := by
  cases command with
  | add argument => exact change_sends settings h Session.addCmts_issues argument
  | remove argument => exact change_sends settings h Session.removeCmts_issues argument

theorem topology_sends :
    Follows (Effects.Sends settings.controller.client) (topology settings) := by
  refine (onSession_sends settings (Harness.follows_lift Session.topology_issues)).bind
    fun nodes => ?_
  exact printResult_sends settings _ _

theorem statistics_sends :
    Follows (Effects.Sends settings.controller.client) (statistics settings) := by
  refine (onSession_sends settings (Harness.follows_lift Session.statistics_issues)).bind
    fun switches => ?_
  split
  · exact sends_of_same settings (notify_same _)
  · exact printResult_sends settings _ _

theorem menu_sends (s : Surroundings) (h : Harness) :
    Follows (Effects.Sends settings.controller.client) (menu s h settings) :=
  fun e => (Menu.run_issues h _ (Harness.connect settings.controller e.controller) s.input).sends

theorem onController_sends (s : Surroundings) (h : Harness) (command : Command) :
    Follows (Effects.Sends settings.controller.client) (onController s h settings command) := by
  cases command with
  | menu => exact menu_sends settings s h
  | topology => exact topology_sends settings
  | flows command => exact flows_sends settings h command
  | stats => exact statistics_sends settings
  | cmts command => exact cmts_sends settings h command
  | fixtures _ | config _ | completions _ => exact follows_throw _

end

/-! ## A whole command -/

theorem settings_apply (s : Surroundings) (o : Options) (e : Effects) :
    settings s o e =
      ((do
          let c ← loadedConfig s e.files
          Settings.ofConfig c o s.environment).mapError (configError s e.files), e) := by
  unfold settings
  rw [get_bind_apply]
  generalize (do
    let c ← loadedConfig s e.files
    Settings.ofConfig c o s.environment : Except Config.Error Settings) = r
  cases r <;> rfl

inductive OnController : Command → Prop
  | menu : OnController .menu
  | topology : OnController .topology
  | flows (command : Flows) : OnController (.flows command)
  | stats : OnController .stats
  | cmts (command : Cmts) : OnController (.cmts command)

def storeOf (settings : Settings) (c : Command) (files : Files.Tree) : Fixture.Store :=
  if c.needsFixtures then (scan settings files).toOption.getD .empty else .empty

/-- What a command does on the controller once it has its settings. -/
def withSettings (s : Surroundings) (c : Command) (settings : Settings) : Running Unit := do
  let e ← get
  namingProfile settings.profile
    (onController s (.ofSettings settings.controller (storeOf settings c e.files)) settings c)

theorem command_eq {c : Command} (hc : OnController c) (s : Surroundings) (o : Options) :
    command s o c = settings s o >>= withSettings s c := by
  cases hc <;> rfl

theorem command_of_settings {c : Command} (hc : OnController c) {s : Surroundings} {o : Options}
    {e : Effects} {chosen : Settings} (h : (settings s o e).1 = .ok chosen) :
    command s o c e = withSettings s c chosen e := by
  have hboth : settings s o e = (.ok chosen, e) := by
    rw [← h, settings_apply]
  rw [command_eq hc, bind_ok hboth]

theorem command_same (s : Surroundings) (o : Options) {c : Command} (hc : ¬ OnController c) :
    Follows Effects.SameController (command s o c) := by
  cases c with
  | config c => exact configuration_same s o c
  | completions shell => exact follows_pure ()
  | fixtures c => exact (settings_follows s o).bind fun chosen => fixtures_same chosen c
  | menu => exact absurd .menu hc
  | topology => exact absurd .topology hc
  | flows c => exact absurd (.flows c) hc
  | stats => exact absurd .stats hc
  | cmts c => exact absurd (.cmts c) hc

theorem command_sends (s : Surroundings) (o : Options) (c : Command) (e : Effects) :
    Effects.SameController e (command s o c e).2 ∨
      ∃ chosen, (settings s o e).1 = .ok chosen ∧
        Effects.Sends chosen.controller.client e (command s o c e).2 := by
  by_cases hc : OnController c
  · cases hchosen : (settings s o e).1 with
    | error problem =>
        refine .inl ?_
        have hsettings : settings s o e = (.error problem, e) := by rw [← hchosen, settings_apply]
        rw [command_eq hc, bind_error hsettings]
        exact refl e
    | ok chosen =>
        refine .inr ⟨chosen, rfl, ?_⟩
        rw [command_of_settings hc hchosen]
        exact follows_get_bind (fun e => onController_sends chosen s _ c e) e
  · exact .inl (command_same s o hc e)

end Running

end Command

end FlowConsole
