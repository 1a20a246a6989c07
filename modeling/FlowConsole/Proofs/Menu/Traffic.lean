import FlowConsole.Proofs.Menu.Dialogue
import FlowConsole.Proofs.Restconf.Traffic
/-!
What the actions of the menu send, one by one and in a dialogue.
-/
namespace FlowConsole

open Restconf (Session)
open Restconf.Session (Issues)

namespace Harness

variable {α : Type}

theorem follows_lift {action : Restconf.Action α} (h : Follows Issues action) :
    Follows Issues (lift action) := h

theorem follows_lift_pure {β : Type} {action : Restconf.Action α} (h : Follows Issues action)
    (f : α → β) : Follows Issues (do pure (f (← lift action)) : Action β) :=
  (follows_lift h).bind fun a => follows_pure (f a)

theorem addFlows_issues (flows : List Json.Value) : Follows Issues (addFlows flows) := by
  induction flows with
  | nil => exact follows_pure _
  | cons flow rest ih =>
      apply (follows_lift (Session.addFlow_issues flow)).bind
      intro outcome
      exact ih.bind fun outcomes => follows_pure _

theorem run_issues (h : Harness) (action : Menu.Action) : Follows Issues (h.run action) := by
  cases action with
  | addCmts1 | addCmts2 => exact follows_lift_pure (Session.addCmts_issues _) _
  | addFlow1 | addFlow2 => exact follows_lift_pure (Session.addFlow_issues _) _
  | removeFlow1 | removeFlow2 => exact follows_lift_pure (Session.removeFlow_issues _) _
  | removeCmts1 | removeCmts2 => exact follows_lift_pure (Session.removeCmts_issues _) _
  | removeAllFlows => exact follows_lift_pure (Session.removeAllFlows_issues h.node h.table) _
  | listFlowStats => exact follows_lift_pure Session.statistics_issues _
  | listTopology => exact follows_lift_pure Session.topology_issues _
  | listFlows => exact follows_lift_pure (Session.listFlows_issues h.node h.table) _
  | printJson | quit => exact follows_pure _

end Harness

namespace Menu

theorem runActions_issues (h : Harness) (actions : List Action) (session : Session) :
    Issues session (runActions h actions session).2 := by
  induction actions generalizing session with
  | nil => exact refl session
  | cons action rest ih =>
      have haction := h.run_issues action session
      rw [runActions]
      cases hrun : h.run action session with
      | mk r session' =>
          rw [hrun] at haction
          cases r with
          | error e => exact haction
          | ok report => exact trans_of Issues haction (ih session')

theorem run_issues (h : Harness) (d : Display) (session : Session) (input : String) :
    Issues session (run h d session input).session := by
  have hsession : (run h d session input).session =
      (runActions h (selections h false (lines input)) session).2 :=
    congrArg Prod.snd (run_result h d session input)
  rw [hsession]
  exact runActions_issues h _ session

end Menu

end FlowConsole
