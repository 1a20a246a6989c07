import FlowConsole.Proofs.Action
import FlowConsole.Proofs.Http.Exchange
import FlowConsole.Restconf.Session
/-!
Single operations of a session.

An operation that makes a call is one exchange on its own path. What it hands back is made of the
answer alone; what it leaves is the controller after that exchange, and the client pointed at the
path.
-/
namespace FlowConsole.Restconf.Session

open Http
open Json (Value)

def exchange (s : Session) (method : Method) (path : String) (payload : Option Value) :
    Except Error Response × Session :=
  match s.client.prepare method path payload with
  | .error e => (.error e, { s with client := s.client.pointedAt path })
  | .ok request =>
    (s.client.answer request (s.controller.receive request).1,
      { client := s.client.pointedAt path, controller := (s.controller.receive request).2 })

theorem exchange_error {s : Session} {method : Method} {path : String} {payload : Option Value}
    {e : Error} (h : s.client.prepare method path payload = .error e) :
    s.exchange method path payload = (.error e, { s with client := s.client.pointedAt path }) := by
  rw [exchange, h]

theorem exchange_ok {s : Session} {method : Method} {path : String} {payload : Option Value}
    {request : Request} (h : s.client.prepare method path payload = .ok request) :
    s.exchange method path payload =
      (s.client.answer request (s.controller.receive request).1,
        { client := s.client.pointedAt path, controller := (s.controller.receive request).2 }) := by
  rw [exchange, h]

/-! ## Running actions -/

section

variable {α β : Type}

theorem ofResult_apply (r : Except Error α) (s : Session) : ofResult r s = (r, s) := by
  cases r <;> rfl

theorem ofResult_bind_pure (r : Except Error α) (f : α → β) :
    (ofResult r >>= fun a => pure (f a)) = ofResult (r.map f) := by
  cases r <;> rfl

theorem bind_ofResult_apply (x : Action α) (f : α → Except Error β) (s : Session) :
    (x >>= fun a => ofResult (f a)) s = ((x s).1.bind f, (x s).2) := by
  cases h : x s with
  | mk r s' =>
      cases r with
      | error e => rw [bind_error h]; rfl
      | ok a => rw [bind_ok h, ofResult_apply]; rfl

end

/-! ## Calls -/

theorem callAt_call (method : Method) (path : String) (payload : Option Value) (s : Session) :
    callAt path (fun c => c.call method payload Client.jsonType) s =
      s.exchange method path payload := by
  have hcall := Client.call_pointedAt s.client method path payload s.controller
  cases hprepare : s.client.prepare method path payload with
  | error e =>
      rw [hprepare] at hcall
      rw [exchange_error hprepare]
      exact congrArg (fun r => (r.1, Session.mk (s.client.pointedAt path) r.2)) hcall
  | ok request =>
      rw [hprepare] at hcall
      rw [exchange_ok hprepare]
      exact congrArg (fun r => (r.1, Session.mk (s.client.pointedAt path) r.2)) hcall

def reading (path : String) (r : Response) : Except Error Response :=
  if r.status = 401 then .error (.unauthorized path) else .ok r

theorem read_apply (path : String) (s : Session) :
    read path s =
      ((s.exchange .get path none).1.bind (reading path), (s.exchange .get path none).2) := by
  have hread : read path = callAt path Client.get >>= fun r => ofResult (reading path r) := by
    unfold read reading
    congr 1
    funext r
    split <;> rfl
  rw [hread, bind_ofResult_apply]
  exact congrArg (fun r => (r.1.bind (reading path), r.2)) (callAt_call .get path none s)

theorem read_ofResult_apply {α : Type} (path : String) (f : Response → Except Error α)
    (s : Session) :
    (read path >>= fun r => ofResult (f r)) s =
      ((s.exchange .get path none).1.bind fun r => (reading path r).bind f,
        (s.exchange .get path none).2) := by
  rw [bind_ofResult_apply, read_apply]
  cases (s.exchange .get path none).1 <;> rfl

theorem topology_apply (s : Session) :
    topology s =
      ((s.exchange .get Path.topology none).1.bind fun r =>
          (reading Path.topology r).bind Response.json,
        (s.exchange .get Path.topology none).2) :=
  read_ofResult_apply Path.topology Response.json s

theorem listFlows_apply (node table : Nat) (s : Session) :
    listFlows node table s =
      ((s.exchange .get (Path.flowTable node table) none).1.bind fun r =>
          (reading (Path.flowTable node table) r).bind fun r =>
            r.jsonOrNull.map (Record.Listing.ofAnswer node table),
        (s.exchange .get (Path.flowTable node table) none).2) := by
  rw [← read_ofResult_apply]
  unfold listFlows
  simp only [← ofResult_bind_pure]

theorem statistics_apply (s : Session) :
    statistics s =
      ((s.exchange .get Path.statistics none).1.bind fun r =>
          (reading Path.statistics r).bind fun r => r.json.map Record.countersOfReport,
        (s.exchange .get Path.statistics none).2) := by
  rw [← read_ofResult_apply]
  unfold statistics
  simp only [← ofResult_bind_pure]

theorem change_apply (operation : Operation) (method : Method) (path : String)
    (payload : Option Value) (s : Session) :
    change operation path (fun c => c.call method payload Client.jsonType) s =
      ((s.exchange method path payload).1.map (Outcome.ofResponse operation),
        (s.exchange method path payload).2) := by
  rw [← callAt_call]
  exact bind_pure_apply _ (Outcome.ofResponse operation) s

theorem removeFlowKey_apply (key : Record.FlowKey) (s : Session) :
    removeFlowKey key s =
      ((s.exchange .delete (flowPath key) none).1.map (Outcome.ofResponse .flowDelete),
        (s.exchange .delete (flowPath key) none).2) :=
  change_apply .flowDelete .delete (flowPath key) none s

/-! ## Keys of records -/

section

variable {α : Type} {s : Session} {record : Value}

theorem flowKey_bind_ok {key : Record.FlowKey} (h : Record.FlowKey.ofRecord record = .ok key)
    (f : Record.FlowKey → Action α) : (flowKey record >>= f) s = f key s := by
  unfold flowKey
  rw [h]
  rfl

theorem flowKey_bind_error {problem : Record.Problem}
    (h : Record.FlowKey.ofRecord record = .error problem) (f : Record.FlowKey → Action α) :
    (flowKey record >>= f) s = (.error (.ofRecord problem), s) := by
  unfold flowKey
  rw [h]
  rfl

theorem cmtsKey_bind_ok {key : Record.CmtsKey} (h : Record.CmtsKey.ofRecord record = .ok key)
    (f : Record.CmtsKey → Action α) : (cmtsKey record >>= f) s = f key s := by
  unfold cmtsKey
  rw [h]
  rfl

theorem cmtsKey_bind_error {problem : Record.Problem}
    (h : Record.CmtsKey.ofRecord record = .error problem) (f : Record.CmtsKey → Action α) :
    (cmtsKey record >>= f) s = (.error (.ofRecord problem), s) := by
  unfold cmtsKey
  rw [h]
  rfl

/-! ## Changes of records with keys -/

theorem addFlow_apply {key : Record.FlowKey} (h : Record.FlowKey.ofRecord record = .ok key)
    (s : Session) :
    addFlow record s =
      ((s.exchange .put (flowPath key) (some record)).1.map (Outcome.ofResponse .flowAdd),
        (s.exchange .put (flowPath key) (some record)).2) := by
  unfold addFlow
  rw [flowKey_bind_ok h]
  exact change_apply .flowAdd .put (flowPath key) (some record) s

theorem removeFlow_apply {key : Record.FlowKey} (h : Record.FlowKey.ofRecord record = .ok key)
    (s : Session) : removeFlow record s = removeFlowKey key s :=
  flowKey_bind_ok h removeFlowKey

theorem addCmts_apply {key : Record.CmtsKey} (h : Record.CmtsKey.ofRecord record = .ok key)
    (s : Session) :
    addCmts record s =
      ((s.exchange .put (Path.cmts key.id) (some record)).1.map (Outcome.ofResponse .cmtsAdd),
        (s.exchange .put (Path.cmts key.id) (some record)).2) := by
  unfold addCmts
  rw [cmtsKey_bind_ok h]
  exact change_apply .cmtsAdd .put (Path.cmts key.id) (some record) s

theorem removeCmts_apply {key : Record.CmtsKey} (h : Record.CmtsKey.ofRecord record = .ok key)
    (s : Session) :
    removeCmts record s =
      ((s.exchange .delete (Path.cmts key.id) none).1.map (Outcome.ofResponse .cmtsDelete),
        (s.exchange .delete (Path.cmts key.id) none).2) := by
  unfold removeCmts
  rw [cmtsKey_bind_ok h]
  exact change_apply .cmtsDelete .delete (Path.cmts key.id) none s

end

end FlowConsole.Restconf.Session
