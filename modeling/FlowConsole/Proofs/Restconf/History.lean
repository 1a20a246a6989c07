import FlowConsole.Proofs.Http.PlainClient
import FlowConsole.Proofs.Restconf.Path
import FlowConsole.Proofs.Restconf.Session
/-!
Runs of operations on one session.

What an operation asks of the controller is told by its own arguments. The path that an earlier
operation left behind, and how that operation ended, leave no trace in it.
-/
namespace FlowConsole.Restconf

open Http Record
open Json (Value)

/-- The operations that make at most one call, with their arguments. -/
inductive Invocation
  | topology
  | listFlows (node table : Nat)
  | addFlow (flow : Value)
  | updateFlow (flow : Value)
  | removeFlow (flow : Value)
  | removeFlowKey (key : FlowKey)
  | statistics
  | addCmts (cmts : Value)
  | removeCmts (cmts : Value)

structure Target where
  method : Method
  path : String
  payload : Option Value

def urlAt (host : Url.Host) (port : Nat) (path : String) : Url :=
  Url.locate (Url.httpSite host port) true (Url.cleanEnd path.toList)

/-- The path that a request for a path is made for. It is the same at each host. -/
def urlPath (path : String) : String := (Url.readPath true (Url.cleanEnd path.toList)).1

namespace Target

def request (c : Client) (host : Url.Host) (t : Target) : Request :=
  c.request t.method (urlAt host c.port t.path) t.payload Client.jsonType

theorem request_url (c : Client) (host : Url.Host) (t : Target) :
    (t.request c host).url = urlAt host c.port t.path :=
  Client.IsPlain.request_url c t.method c.port (Url.cleanEnd t.path.toList) t.payload
    Client.jsonType

end Target

namespace Invocation

def target? : Invocation → Option Target
  | topology => some ⟨.get, Path.topology, none⟩
  | listFlows node table => some ⟨.get, Path.flowTable node table, none⟩
  | addFlow flow =>
    (FlowKey.ofRecord flow).toOption.map fun key => ⟨.put, Session.flowPath key, some flow⟩
  | updateFlow flow =>
    (FlowKey.ofRecord flow).toOption.map fun key => ⟨.post, Session.flowPath key, some flow⟩
  | removeFlow flow =>
    (FlowKey.ofRecord flow).toOption.map fun key => ⟨.delete, Session.flowPath key, none⟩
  | removeFlowKey key => some ⟨.delete, Session.flowPath key, none⟩
  | statistics => some ⟨.get, Path.statistics, none⟩
  | addCmts cmts =>
    (CmtsKey.ofRecord cmts).toOption.map fun key => ⟨.put, Path.cmts key.id, some cmts⟩
  | removeCmts cmts =>
    (CmtsKey.ofRecord cmts).toOption.map fun key => ⟨.delete, Path.cmts key.id, none⟩

def failure? {α : Type} : Except Error α → Option Error
  | .ok _ => none
  | .error e => some e

def outcome {α : Type} (action : Action α) (s : Session) : Option Error × Session :=
  (failure? (action s).1, (action s).2)

def run (s : Session) : Invocation → Option Error × Session
  | topology => outcome Session.topology s
  | listFlows node table => outcome (Session.listFlows node table) s
  | addFlow flow => outcome (Session.addFlow flow) s
  | updateFlow flow => outcome (Session.updateFlow flow) s
  | removeFlow flow => outcome (Session.removeFlow flow) s
  | removeFlowKey key => outcome (Session.removeFlowKey key) s
  | statistics => outcome Session.statistics s
  | addCmts cmts => outcome (Session.addCmts cmts) s
  | removeCmts cmts => outcome (Session.removeCmts cmts) s

def runAll (s : Session) (ops : List Invocation) : Session :=
  ops.foldl (fun s op => (op.run s).2) s

theorem target?_isAbsolute {op : Invocation} {t : Target} (h : op.target? = some t) :
    IsAbsolute t.path := by
  cases op with
  | topology => cases h; exact Path.isAbsolute_topology
  | listFlows node table => cases h; exact Path.isAbsolute_flowTable node table
  | statistics => cases h; exact Path.isAbsolute_statistics
  | removeFlowKey key => cases h; exact Path.isAbsolute_flow key.node key.table key.id
  | addFlow flow | updateFlow flow | removeFlow flow =>
      obtain ⟨key, -, rfl⟩ := Option.map_eq_some_iff.mp h
      exact Path.isAbsolute_flow key.node key.table key.id
  | addCmts cmts | removeCmts cmts =>
      obtain ⟨key, -, rfl⟩ := Option.map_eq_some_iff.mp h
      exact Path.isAbsolute_cmts key.id

/-! ## One operation -/

theorem eq_ok_of_toOption {α ε : Type} {x : Except ε α} {a : α} (h : x.toOption = some a) :
    x = .ok a := by
  cases x with
  | error e => cases h
  | ok b => exact congrArg Except.ok (Option.some.inj h)

theorem exists_error_of_toOption {α ε : Type} {x : Except ε α} (h : x.toOption = none) :
    ∃ e, x = .error e := by
  cases x with
  | error e => exact ⟨e, rfl⟩
  | ok b => cases h

/-- The error that an operation ends with, made of the answer. -/
def judged (judge : Response → Option Error) : Except Error Response → Option Error
  | .error e => some e
  | .ok r => judge r

section

variable {α : Type} {action : Action α} {s left : Session}

theorem outcome_eq_some_iff {e : Error} :
    outcome action s = (some e, left) ↔ action s = (.error e, left) := by
  constructor
  · intro h
    obtain ⟨hfailure, hleft⟩ := Prod.ext_iff.mp h
    refine Prod.ext ?_ hleft
    unfold outcome at hfailure
    cases hresult : (action s).1 <;> simp_all [failure?]
  · intro h
    rw [outcome, h]
    rfl

theorem outcome_eq_none_iff :
    outcome action s = (none, left) ↔ ∃ a, action s = (.ok a, left) := by
  constructor
  · intro h
    obtain ⟨hfailure, hleft⟩ := Prod.ext_iff.mp h
    unfold outcome at hfailure
    cases hresult : (action s).1 with
    | error e => simp [failure?, hresult] at hfailure
    | ok a => exact ⟨a, Prod.ext hresult hleft⟩
  · rintro ⟨a, h⟩
    rw [outcome, h]
    rfl

end

theorem outcome_error {α : Type} {action : Action α} {s : Session} {e : Error}
    (h : action s = (.error e, s)) : outcome action s = (some e, s) :=
  outcome_eq_some_iff.mpr h

theorem outcome_read {α : Type} {action : Action α} {f : Response → Except Error α} {path : String}
    {s : Session} (h : action s = ((s.exchange .get path none).1.bind f,
      (s.exchange .get path none).2)) :
    outcome action s = (judged (fun r => failure? (f r)) (s.exchange .get path none).1,
      (s.exchange .get path none).2) := by
  unfold outcome
  rw [h]
  cases (s.exchange .get path none).1 <;> rfl

theorem outcome_change {action : Action Outcome} {operation : Operation} {method : Method}
    {path : String} {payload : Option Value} {s : Session}
    (h : action s =
      Session.change operation path (fun c => c.call method payload Client.jsonType) s) :
    outcome action s = (judged (fun _ => none) (s.exchange method path payload).1,
      (s.exchange method path payload).2) := by
  unfold outcome
  rw [h, Session.change_apply]
  cases (s.exchange method path payload).1 <;> rfl

def judgeReading (path : String) (parse : Response → Except Error Value) (r : Response) :
    Option Error :=
  failure? ((Session.reading path r).bind parse)

/-- The error that an operation makes of an answer. A change makes none. -/
def judge : Invocation → Response → Option Error
  | topology => judgeReading Path.topology Response.json
  | listFlows node table => judgeReading (Path.flowTable node table) Response.jsonOrNull
  | statistics => judgeReading Path.statistics Response.json
  | addFlow _ | updateFlow _ | removeFlow _ | removeFlowKey _ | addCmts _ | removeCmts _ =>
    fun _ => none

theorem failure?_bind_map {α β γ : Type} (x : Except Error α) (f : α → Except Error β) (g : β → γ) :
    failure? (x.bind fun a => (f a).map g) = failure? (x.bind f) := by
  cases x with
  | error e => rfl
  | ok a =>
      change failure? ((f a).map g) = failure? (f a)
      cases f a <;> rfl

theorem failure?_json {r : Response} {e : Error} (h : failure? r.json = some e) :
    ∃ message, e = .unreadable message r.body := by
  unfold Response.json at h
  split at h
  · cases h
  · exact ⟨_, (Option.some.inj h).symm⟩

theorem failure?_jsonOrNull {r : Response} {e : Error} (h : failure? r.jsonOrNull = some e) :
    ∃ message, e = .unreadable message r.body := by
  unfold Response.jsonOrNull at h
  split at h
  · cases h
  · exact failure?_json h

theorem judgeReading_eq_some {path : String} {parse : Response → Except Error Value} {r : Response}
    {e : Error}
    (hparse : ∀ e, failure? (parse r) = some e → ∃ message, e = .unreadable message r.body)
    (h : judgeReading path parse r = some e) :
    (r.status = 401 ∧ e = .unauthorized path) ∨
      r.status ≠ 401 ∧ ∃ message, e = .unreadable message r.body := by
  unfold judgeReading Session.reading at h
  split at h
  · exact .inl ⟨‹_›, (Option.some.inj h).symm⟩
  · exact .inr ⟨‹_›, hparse e h⟩

theorem judge_eq_some {op : Invocation} {r : Response} {e : Error} (h : op.judge r = some e) :
    (∃ path, e = .unauthorized path) ∨ ∃ message body, e = .unreadable message body := by
  have hcases : ∀ path parse, (∀ e, failure? (parse r) = some e →
      ∃ message, e = .unreadable message r.body) → judgeReading path parse r = some e →
      (∃ path, e = .unauthorized path) ∨ ∃ message body, e = .unreadable message body := by
    intro path parse hparse hjudge
    rcases judgeReading_eq_some hparse hjudge with ⟨-, he⟩ | ⟨-, message, he⟩
    · exact .inl ⟨path, he⟩
    · exact .inr ⟨message, r.body, he⟩
  cases op with
  | topology | statistics => exact hcases _ _ (fun _ => failure?_json) h
  | listFlows node table => exact hcases _ _ (fun _ => failure?_jsonOrNull) h
  | addFlow _ | updateFlow _ | removeFlow _ | removeFlowKey _ | addCmts _ | removeCmts _ => cases h

/-- An operation that asks for something is one exchange, and the rest of it looks at the answer
only. -/
theorem run_eq_exchange {op : Invocation} {t : Target} (ht : op.target? = some t) (s : Session) :
    op.run s = (judged op.judge (s.exchange t.method t.path t.payload).1,
      (s.exchange t.method t.path t.payload).2) := by
  cases op with
  | topology =>
      cases ht
      exact outcome_read (Session.topology_apply s)
  | listFlows node table =>
      cases ht
      rw [run, outcome_read (Session.listFlows_apply node table s)]
      simp only [failure?_bind_map]
      rfl
  | statistics =>
      cases ht
      rw [run, outcome_read (Session.statistics_apply s)]
      simp only [failure?_bind_map]
      rfl
  | removeFlowKey key =>
      cases ht
      exact outcome_change rfl
  | addFlow flow | updateFlow flow | removeFlow flow =>
      obtain ⟨key, hkey, rfl⟩ := Option.map_eq_some_iff.mp ht
      exact outcome_change (Session.flowKey_bind_ok (eq_ok_of_toOption hkey) _)
  | addCmts cmts | removeCmts cmts =>
      obtain ⟨key, hkey, rfl⟩ := Option.map_eq_some_iff.mp ht
      exact outcome_change (Session.cmtsKey_bind_ok (eq_ok_of_toOption hkey) _)

theorem run_eq_self {op : Invocation} (ht : op.target? = none) (s : Session) :
    ∃ message, op.run s = (some (.invalidRecord message), s) := by
  cases op with
  | topology => cases ht
  | listFlows node table => cases ht
  | statistics => cases ht
  | removeFlowKey key => cases ht
  | addFlow flow | updateFlow flow | removeFlow flow =>
      obtain ⟨problem, hproblem⟩ := exists_error_of_toOption (Option.map_eq_none_iff.mp ht)
      exact ⟨problem.message, outcome_error (Session.flowKey_bind_error hproblem _)⟩
  | addCmts cmts | removeCmts cmts =>
      obtain ⟨problem, hproblem⟩ := exists_error_of_toOption (Option.map_eq_none_iff.mp ht)
      exact ⟨problem.message, outcome_error (Session.cmtsKey_bind_error hproblem _)⟩

theorem judged_ne_pathNotSet (op : Invocation) (c : Client) (request : Request)
    (exchange : Option Exchange) :
    judged op.judge (c.answer request exchange) ≠ some .pathNotSet := by
  have hreply : ∀ r, op.judge r ≠ some .pathNotSet := by
    intro r hr
    rcases judge_eq_some hr with ⟨_, he⟩ | ⟨_, _, he⟩ <;> cases he
  cases hanswer : c.answer request exchange with
  | ok r => exact hreply r
  | error e => rcases Client.answer_eq_error hanswer with ⟨_, rfl⟩ | ⟨_, rfl⟩ <;> simp [judged]

section

variable {s : Session} {host : Url.Host}

theorem run_target (h : s.client.IsPlain host) {op : Invocation} {t : Target}
    (ht : op.target? = some t) :
    (op.run s).1 ≠ some .pathNotSet ∧
      (op.run s).2 =
        { client := s.client.pointedAt t.path
          controller := (s.controller.receive (t.request s.client host)).2 } := by
  have hrun := run_eq_exchange ht s
  have hprepare := h.prepare_eq t.method (target?_isAbsolute ht) t.payload
  rw [Session.exchange_ok hprepare] at hrun
  rw [hrun]
  exact ⟨judged_ne_pathNotSet op s.client _ _, rfl⟩

/-! ## Runs -/

/-- What a run keeps and what it asks for. The induction is on the operations; each one hands on a
client that differs in its path alone, and no request depends on that. -/
theorem runAll_spec (h : s.client.IsPlain host) (ops : List Invocation) :
    (runAll s ops).client.IsPlain host ∧
      Target.request (runAll s ops).client host = Target.request s.client host ∧
      (∀ path, (runAll s ops).client.pointedAt path = s.client.pointedAt path) ∧
      (runAll s ops).controller =
        s.controller.after ((ops.filterMap target?).map (Target.request s.client host)) := by
  induction ops generalizing s with
  | nil => exact ⟨h, rfl, fun _ => rfl, rfl⟩
  | cons op ops ih =>
      have hall : runAll s (op :: ops) = runAll (op.run s).2 ops := rfl
      cases ht : op.target? with
      | none =>
          obtain ⟨message, hrun⟩ := run_eq_self ht s
          rw [hall, hrun, List.filterMap_cons_none ht]
          exact ih h
      | some t =>
          obtain ⟨-, hrun⟩ := run_target h ht
          have hnext := ih (s := (op.run s).2) (by
            rw [hrun]
            exact h.pointedAt t.path)
          rw [hrun] at hnext
          rw [hall, hrun, List.filterMap_cons_some ht, List.map_cons, Controller.after_cons]
          exact hnext

/-- Runs of a plain client. Whatever was done before, an operation makes one request, and method,
URL and body of it are told by its own arguments; a record without a key makes none. -/
theorem run_independent (h : s.client.IsPlain host) (earlier : List Invocation)
    (op : Invocation) :
    let before := runAll s earlier
    before.controller =
        s.controller.after ((earlier.filterMap target?).map (Target.request s.client host)) ∧
      (op.target? = none →
        ∃ message, op.run before = (some (.invalidRecord message), before)) ∧
      (∀ t, op.target? = some t →
        let request := t.request s.client host
        (op.run before).1 ≠ some .pathNotSet ∧
          (op.run before).2 =
            { client := s.client.pointedAt t.path
              controller := (before.controller.receive request).2 } ∧
          request.method = t.method ∧ request.url = urlAt host s.client.port t.path ∧
          request.url.path = urlPath t.path ∧
          request.body = t.payload.elim "" Value.compact) ∧
      ∀ record,
        (addFlow record).target?.map Target.path = (removeFlow record).target?.map Target.path ∧
          (updateFlow record).target?.map Target.path =
            (removeFlow record).target?.map Target.path ∧
          (addCmts record).target?.map Target.path =
            (removeCmts record).target?.map Target.path := by
  intro before
  obtain ⟨hplain, hrequest, hpointed, hcontroller⟩ := runAll_spec h earlier
  refine ⟨hcontroller, fun ht => run_eq_self ht before, ?_, ?_⟩
  · intro t ht request
    obtain ⟨hset, hrun⟩ := run_target hplain ht
    rw [hrequest, hpointed] at hrun
    have hurl := Target.request_url s.client host t
    refine ⟨hset, hrun, rfl, hurl, ?_, rfl⟩
    rw [hurl]
    rfl
  · intro record
    simp only [target?, Option.map_map]
    exact ⟨rfl, rfl, rfl⟩

end

/-- After a topology that nobody answered, a listing is asked for as if it came first. -/
theorem listing_after_drop :
    let s : Session :=
      { client := Client.ofLocalhost, controller := Controller.scripted [.drop] }
    ((listFlows 1 0).run (runAll s [topology])).2 =
      { client := Client.ofLocalhost.pointedAt (Path.flowTable 1 0)
        controller := ((runAll s [topology]).controller.receive
          (Target.request Client.ofLocalhost (.domain "localhost")
            ⟨.get, Path.flowTable 1 0, none⟩)).2 } := by
  intro s
  obtain ⟨-, -, htarget, -⟩ :=
    run_independent (s := s) Client.ofLocalhost_isPlain [topology] (listFlows 1 0)
  exact (htarget _ rfl).2.1

end Invocation

end FlowConsole.Restconf
