import FlowConsole.Proofs.Command.Authorization
import FlowConsole.Proofs.Restconf.LocalError
/-!
Runs that end in an error of the user's own making.

A value that is not valid, a record that does not exist or has no key, a confirmation that is
missing: such an error comes up before the first request, and the run that ends in it has left the
controller alone. That holds of sweeps and of whole dialogues too.
-/
namespace FlowConsole

open Http (Client)
open Restconf (Session)
open Restconf.Session (Issues IsLocated Untouched)

namespace Harness

def Error.isLocal : Error → Bool
  | .invalidRecord _ => true
  | .unknownRecord _ => true
  | .unreadableFixtures _ _ => true
  | .malformedFixture _ _ => true
  | .configuration _ => true
  | _ => false

theorem Error.isLocal_ofHttp (e : Http.Error) : (Error.ofHttp e).isLocal = e.isLocal := by
  cases e <;> rfl

section

variable {α β : Type} {operation : Restconf.Action α}

/-- Whether an action fails for the user's own data from no session that has its requests. -/
abbrev AvoidsLocal (x : Action α) : Prop := Avoids IsLocated Error.isLocal x

theorem exists_of_lift_error {s : Session} {e : Error} (h : (lift operation s).1 = .error e) :
    ∃ problem, (operation s).1 = .error problem ∧ e.isLocal = problem.isLocal := by
  simp only [lift] at h
  split at h
  · cases h
  · rename_i problem hproblem
    obtain rfl := Except.error.inj h
    exact ⟨problem, hproblem, Error.isLocal_ofHttp problem⟩

theorem lift_avoidsLocal (h : Session.AvoidsLocal operation) : AvoidsLocal (lift operation) := by
  intro s hs
  refine ⟨(h s hs).1, fun e he => ?_⟩
  obtain ⟨problem, hproblem, hkind⟩ := exists_of_lift_error he
  exact hkind.trans ((h s hs).2 problem hproblem)

theorem lift_pure_avoidsLocal (h : Session.AvoidsLocal operation) (f : α → β) :
    AvoidsLocal (do pure (f (← lift operation))) :=
  (lift_avoidsLocal h).bind fun a => avoids_pure (f a)

theorem lift_untouched (h : Spares Untouched Http.Error.isLocal operation) :
    Spares Untouched Error.isLocal (lift operation) := by
  intro s e he hlocal
  obtain ⟨problem, hproblem, hkind⟩ := exists_of_lift_error he
  exact h s problem hproblem (hkind.symm.trans hlocal)

end

theorem addFlows_avoidsLocal {flows : List Json.Value}
    (h : ∀ flow ∈ flows, (Restconf.Invocation.addFlow flow).target?.isSome) :
    AvoidsLocal (addFlows flows) := by
  induction flows with
  | nil => exact avoids_pure _
  | cons flow rest ih =>
      apply (lift_avoidsLocal (Session.addFlow_avoidsLocal (h flow List.mem_cons_self))).bind
      intro outcome
      exact (ih fun flow hflow => h flow (List.mem_cons_of_mem _ hflow)).bind
        fun outcomes => avoids_pure _

theorem severalFlows_addressable : ∀ flow ∈ severalFlows.map Record.Builtin.record,
    (Restconf.Invocation.addFlow flow).target?.isSome := by
  rw [List.forall_mem_map]
  decide

theorem addSeveralFlows_avoidsLocal : AvoidsLocal addSeveralFlows :=
  addFlows_avoidsLocal severalFlows_addressable

theorem run_avoidsLocal (h : Harness) (action : Menu.Action) : AvoidsLocal (h.run action) := by
  cases action with
  | addCmts1 | addCmts2 => exact lift_pure_avoidsLocal (Session.addCmts_avoidsLocal rfl) _
  | addFlow1 | addFlow2 => exact lift_pure_avoidsLocal (Session.addFlow_avoidsLocal rfl) _
  | removeFlow1 | removeFlow2 => exact lift_pure_avoidsLocal (Session.removeFlow_avoidsLocal rfl) _
  | removeCmts1 | removeCmts2 => exact lift_pure_avoidsLocal (Session.removeCmts_avoidsLocal rfl) _
  | removeAllFlows =>
      exact lift_pure_avoidsLocal (Session.removeAllFlows_avoidsLocal h.node h.table) _
  | listFlowStats => exact lift_pure_avoidsLocal Session.statistics_avoidsLocal _
  | listTopology => exact lift_pure_avoidsLocal Session.topology_avoidsLocal _
  | listFlows => exact lift_pure_avoidsLocal (Session.listFlows_avoidsLocal h.node h.table) _
  | printJson | quit => exact avoids_pure _

end Harness

namespace Menu

theorem runActions_not_local (h : Harness) (actions : List Action) {session : Session}
    (hlocated : session.IsLocated) {e : Harness.Error}
    (he : (runActions h actions session).1 = some e) : e.isLocal = false := by
  induction actions generalizing session with
  | nil => cases he
  | cons action rest ih =>
      obtain ⟨hkeeps, hnot⟩ := h.run_avoidsLocal action session hlocated
      rw [runActions] at he
      cases hrun : h.run action session with
      | mk r session' =>
          rw [hrun] at he hkeeps hnot
          cases r with
          | error e' =>
              obtain rfl := Option.some.inj he
              exact hnot e' rfl
          | ok report => exact ih hkeeps he

theorem selections_untouched {h : Harness} {d : Display} {session : Session} {input : String}
    {e : Harness.Error} (he : (run h d session input).error = some e) (hlocal : e.isLocal = true) :
    (run h d session input).session.controller = session.controller := by
  rcases session.client.isLocated_or_prepares_none with hlocated | hnone
  · have herror := congrArg Prod.fst (run_result h d session input)
    have hnot := runActions_not_local h _ hlocated (herror.symm.trans he)
    rw [hlocal] at hnot
    cases hnot
  · exact (run_issues h d session input).sends.eq_of_prepares_none hnone

end Menu

namespace Command

/-- Errors of the user's own making: in a value, a name, a record, a confirmation, the fixtures or
the configuration. -/
def Error.isLocal : Error → Bool
  | .validation _ _ => true
  | .needsConfirmation _ => true
  | .recordNotFound _ => true
  | .profileNotFound _ _ => true
  | .invalidRecord _ => true
  | .fixtures _ _ => true
  | .configuration _ _ => true
  | _ => false

namespace Error

theorem isLocal_ofHarness (e : Harness.Error) : (ofHarness e).isLocal = e.isLocal := by
  cases e <;> rfl

theorem isLocal_forProfile (name : String) (e : Error) : (forProfile name e).isLocal = e.isLocal := by
  cases e <;> rfl

theorem isLocal_of_exitCode {e : Error} (h : e.exitCode = 2 ∨ e.exitCode = 4) :
    e.isLocal = true := by
  cases e <;> first | rfl | exact absurd h (by simp [exitCode])

end Error

namespace Running

/-- Whether a part of a run that ends in an error of the user's own making leaves the controller
alone. -/
abbrev SparesController {α : Type} (x : Running α) : Prop :=
  Spares Effects.SameController Error.isLocal x

theorem printResult_ok (quiet : Bool) (text : String) (e : Effects) :
    ∃ done, (printResult quiet text e).1 = .ok done := by
  cases quiet <;> exact ⟨(), rfl⟩

theorem printing_spares {α : Type} {x : Running α} (hx : SparesController x) (quiet : Bool)
    (text : α → String) : SparesController (do printResult quiet (text (← x))) :=
  hx.bind_ok fun a => printResult_ok quiet (text a)

section

variable {α : Type} (settings : Settings)

theorem onSession_spares {action : Harness.Action α}
    (h : Spares Untouched Harness.Error.isLocal action) :
    SparesController (onSession settings action) := by
  intro e problem he hlocal
  obtain ⟨problem', hproblem, rfl⟩ := exists_of_mapError he
  rw [Error.isLocal_ofHarness] at hlocal
  exact h _ problem' hproblem hlocal

theorem change_spares (h : Harness) {operation : Json.Value → Restconf.Action Restconf.Outcome}
    (hoperation : ∀ v, Spares Untouched Http.Error.isLocal (operation v)) (argument : String) :
    SparesController (change h settings operation argument) :=
  Spares.bind (record_follows h argument) fun v =>
    printing_spares (onSession_spares settings (Harness.lift_untouched (hoperation v))) _ _

theorem flows_spares (h : Harness) (command : Flows) : SparesController (flows h settings command) := by
  cases command with
  | list =>
      apply printing_spares (onSession_spares settings (Harness.lift_untouched ?_))
      exact Session.untouched_of_run (.listFlows h.node h.table) fun _ => rfl
  | add argument =>
      exact change_spares settings h (fun v => Session.untouched_of_run (.addFlow v) fun _ => rfl) _
  | addSeveral =>
      apply printing_spares (onSession_spares settings ?_)
      exact Session.untouched_of_avoids (Harness.addFlows_issues _) Harness.addSeveralFlows_avoidsLocal
  | update argument =>
      exact change_spares settings h (fun v => Session.untouched_of_run (.updateFlow v) fun _ => rfl) _
  | remove argument =>
      exact change_spares settings h (fun v => Session.untouched_of_run (.removeFlow v) fun _ => rfl) _
  | removeAll =>
      have hsweep : SparesController (do
          let removals ← onSession settings h.removeAllFlows
          printResult settings.quiet
            (Report.removalsText settings.format settings.color removals)) := by
        apply printing_spares (onSession_spares settings (Harness.lift_untouched ?_))
        exact Session.untouched_of_avoids (Session.removeAllFlows_issues h.node h.table)
          (Session.removeAllFlows_avoidsLocal h.node h.table)
      unfold flows
      dsimp only
      split
      · exact Spares.bind (follows_throw _) fun _ => hsweep
      · exact hsweep

theorem cmts_spares (h : Harness) (command : Cmts) : SparesController (cmts h settings command) := by
  cases command with
  | add argument =>
      exact change_spares settings h (fun v => Session.untouched_of_run (.addCmts v) fun _ => rfl) _
  | remove argument =>
      exact change_spares settings h (fun v => Session.untouched_of_run (.removeCmts v) fun _ => rfl) _

theorem topology_spares : SparesController (topology settings) :=
  printing_spares (onSession_spares settings (Harness.lift_untouched
    (Session.untouched_of_run .topology fun _ => rfl))) _ _

theorem statistics_spares : SparesController (statistics settings) := by
  refine (onSession_spares settings (Harness.lift_untouched
    (Session.untouched_of_run .statistics fun _ => rfl))).bind_ok fun switches e => ?_
  split
  · exact ⟨(), rfl⟩
  · exact printResult_ok _ _ e

theorem menu_error {s : Surroundings} {h : Harness} {e : Effects} {problem : Error}
    (he : (menu s h settings e).1 = .error problem) :
    ∃ problem', (Menu.run h { format := settings.format, color := settings.color }
      (Harness.connect settings.controller e.controller) s.input).error = some problem' ∧
      Error.ofHarness problem' = problem := by
  simp only [menu] at he
  cases hrun : (Menu.run h { format := settings.format, color := settings.color }
      (Harness.connect settings.controller e.controller) s.input).error with
  | none =>
      rw [hrun] at he
      cases he
  | some problem' =>
      rw [hrun] at he
      exact ⟨problem', rfl, Except.error.inj he⟩

theorem menu_spares (s : Surroundings) (h : Harness) : SparesController (menu s h settings) := by
  intro e problem he hlocal
  obtain ⟨problem', hproblem, rfl⟩ := menu_error settings he
  rw [Error.isLocal_ofHarness] at hlocal
  exact Menu.selections_untouched hproblem hlocal

theorem onController_spares (s : Surroundings) (h : Harness) (command : Command) :
    SparesController (onController s h settings command) := by
  cases command with
  | menu => exact menu_spares settings s h
  | topology => exact topology_spares settings
  | flows command => exact flows_spares settings h command
  | stats => exact statistics_spares settings
  | cmts command => exact cmts_spares settings h command
  | fixtures _ | config _ | completions _ => exact (follows_throw _).spares _

end

theorem namingProfile_spares {run : Running Unit} (h : SparesController run) (profile : String) :
    SparesController (namingProfile profile run) := by
  intro e problem he hlocal
  obtain ⟨problem', hproblem, rfl⟩ := exists_of_mapError he
  rw [Error.isLocal_forProfile] at hlocal
  exact h e problem' hproblem hlocal

theorem command_spares (s : Surroundings) (o : Options) (c : Command) :
    SparesController (command s o c) := by
  by_cases hc : OnController c
  · rw [command_eq hc]
    refine Spares.bind (settings_follows s o) fun chosen => Spares.bind follows_get fun e => ?_
    exact namingProfile_spares (onController_spares chosen s _ c) chosen.profile
  · exact (command_same s o hc).spares _

end Running

/-- A run that ends in an error of the user's own making, with one of the exit codes for such errors
among others, has left the controller as it was. -/
theorem Arguments.run_untouched (s : Surroundings) (a : Arguments) (e : Effects) {problem : Error}
    (hend : (a.run s e).1 = .error problem)
    (hlocal : problem.isLocal = true ∨ problem.exitCode = 2 ∨ problem.exitCode = 4) :
    (a.run s e).2.controller = e.controller := by
  have hkind : problem.isLocal = true := hlocal.elim id Error.isLocal_of_exitCode
  exact Running.command_spares s a.options (a.command.getD .menu) e problem hend hkind

def sweepWords : List String := ["--no-auth", "--host", "localhost", "flows", "remove-all"]

def sweepArguments : Arguments :=
  { options := (topologyArguments "localhost").options, command := some (.flows .removeAll) }

theorem run_unconfirmed :
    Arguments.parse [] sweepWords = .ok sweepArguments ∧
      (sweepArguments.run bareSurroundings bareStart).1 =
        .error (.needsConfirmation "flows remove-all") ∧
      (sweepArguments.run bareSurroundings bareStart).2.controller = .scripted [] := by
  have haccept : Config.checkHost "localhost" 8181 = .ok () :=
    Config.checkHost_of_isPlainHost Client.ofLocalhost_isPlain.isHost (by decide)
  have hrun : sweepArguments.run bareSurroundings bareStart =
      Running.withSettings bareSurroundings (.flows .removeAll) (topologySettings "localhost")
        bareStart :=
    Running.command_of_settings (.flows .removeAll) (bareStart_settings haccept)
  have hend : (sweepArguments.run bareSurroundings bareStart).1 =
      .error (.needsConfirmation "flows remove-all") := by
    rw [hrun]
    rfl
  exact ⟨rfl, hend, sweepArguments.run_untouched bareSurroundings bareStart hend (.inl rfl)⟩

end Command

end FlowConsole
