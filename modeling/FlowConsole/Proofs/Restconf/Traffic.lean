import FlowConsole.Proofs.Http.Traffic
import FlowConsole.Proofs.Restconf.History
/-!
What the operations of a session send.

Whatever an operation does and however it ends, the client it leaves differs from the one it found
in its path alone, and all that the controller got was requests of that client.
-/
namespace FlowConsole.Restconf

open Http Record

/-- Whether a session got from one state to another by requests of its client. -/
structure Session.Issues (before after : Session) : Prop where
  client : ∀ path, after.client.pointedAt path = before.client.pointedAt path
  sends : before.client.Sends before.controller after.controller

namespace Session

theorem prepare_of_pointedAt {c c' : Client} (h : ∀ path, c'.pointedAt path = c.pointedAt path) :
    c'.prepare = c.prepare := by
  rw [← Client.prepare_pointedAt c' "", h, Client.prepare_pointedAt]

theorem timeout_of_pointedAt {c c' : Client} (h : ∀ path, c'.pointedAt path = c.pointedAt path) :
    c'.timeout = c.timeout := by
  have hsame := congrArg Client.timeout (h "")
  exact hsame

theorem prepares_of_pointedAt {c c' : Client} (h : ∀ path, c'.pointedAt path = c.pointedAt path) :
    c'.Prepares = c.Prepares := by
  funext request
  unfold Client.Prepares
  rw [prepare_of_pointedAt h]

instance : IsPreorder Session Issues where
  refl s := ⟨fun _ => rfl, refl s.controller⟩
  trans := by
    rintro first middle last ⟨hclient, hsends⟩ ⟨hclient', hsends'⟩
    refine ⟨fun path => (hclient' path).trans (hclient path), ?_⟩
    have hsame : middle.client.Sends = first.client.Sends := by
      unfold Client.Sends
      rw [prepares_of_pointedAt hclient]
    rw [hsame] at hsends'
    exact trans_of first.client.Sends hsends hsends'

theorem issues_exchange (s : Session) (method : Method) {path : String} (hpath : IsAbsolute path)
    (payload : Option Json.Value) : Issues s (s.exchange method path payload).2 := by
  cases hprepare : s.client.prepare method path payload with
  | error e =>
      rw [exchange_error hprepare]
      exact ⟨fun _ => rfl, refl s.controller⟩
  | ok request =>
      rw [exchange_ok hprepare]
      refine ⟨fun _ => rfl, ?_⟩
      exact Client.sends_receive ⟨method, path, payload, hpath, hprepare⟩ s.controller

theorem issues_run (op : Invocation) (s : Session) : Issues s (op.run s).2 := by
  cases ht : op.target? with
  | none =>
      obtain ⟨message, hrun⟩ := Invocation.run_eq_self ht s
      rw [hrun]
      exact refl s
  | some t =>
      rw [Invocation.run_eq_exchange ht s]
      exact issues_exchange s t.method (Invocation.target?_isAbsolute ht) t.payload

theorem follows_of_run {α : Type} {action : Action α} (op : Invocation)
    (h : ∀ s, op.run s = Invocation.outcome action s) : Follows Issues action := by
  intro s
  have hissues := issues_run op s
  rw [h] at hissues
  exact hissues

theorem topology_issues : Follows Issues topology := follows_of_run .topology fun _ => rfl

theorem statistics_issues : Follows Issues statistics := follows_of_run .statistics fun _ => rfl

theorem listFlows_issues (node table : Nat) : Follows Issues (listFlows node table) :=
  follows_of_run (.listFlows node table) fun _ => rfl

theorem removeFlowKey_issues (key : FlowKey) : Follows Issues (removeFlowKey key) :=
  follows_of_run (.removeFlowKey key) fun _ => rfl

section

variable (record : Json.Value)

theorem addFlow_issues : Follows Issues (addFlow record) :=
  follows_of_run (.addFlow record) fun _ => rfl

theorem updateFlow_issues : Follows Issues (updateFlow record) :=
  follows_of_run (.updateFlow record) fun _ => rfl

theorem removeFlow_issues : Follows Issues (removeFlow record) :=
  follows_of_run (.removeFlow record) fun _ => rfl

theorem addCmts_issues : Follows Issues (addCmts record) :=
  follows_of_run (.addCmts record) fun _ => rfl

theorem removeCmts_issues : Follows Issues (removeCmts record) :=
  follows_of_run (.removeCmts record) fun _ => rfl

end

theorem removeKeys_issues (keys : List FlowKey) : Follows Issues (removeKeys keys) := by
  induction keys with
  | nil => exact follows_pure _
  | cons key rest ih =>
      apply (removeFlowKey_issues key).bind
      intro outcome
      exact ih.bind fun removals => follows_pure _

theorem removeAllFlows_issues (node table : Nat) : Follows Issues (removeAllFlows node table) :=
  (listFlows_issues node table).bind fun listing => removeKeys_issues listing.keys

end Session

end FlowConsole.Restconf
