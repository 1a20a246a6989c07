import FlowConsole.Command.Error
import FlowConsole.Proofs.Harness.Authorization
import FlowConsole.Proofs.Restconf.LocalError
import FlowConsole.Proofs.Restconf.Sweep
/-!
What the controller is asked for, and the exit code that its answers come to.

Requests go out one after the other up to the first that is not answered completely, and that one
decides the exit code. Where all are answered, what was read decides it: a status that rejects the
credentials, or a body that cannot be read. The answers to changes never do.
-/
namespace FlowConsole

open Http (Client Controller Exchange IsAbsolute Request Response)
open Json (Value)
open Record (FlowKey Listing)
open Restconf (Invocation Session Target)

namespace Command

/-- The exit code of a request that is not answered completely; without an exchange the controller
was not reached. Time runs out only where some is set. -/
def faultCode? (timeout : Option Nat) : Option Exchange → Option Nat
  | none => some 7
  | some .drop => some 7
  | some .truncate => some 7
  | some .hang => some (if timeout.isSome then 8 else 7)
  | some (.reply _ _) => none

/-- Whether what is read can be made sense of: JSON, or a blank where that will do. -/
def isReadable (blankWillDo : Bool) (body : String) : Bool :=
  (Json.parse body).isOk || (blankWillDo && Text.isBlankText body)

def readingCode (blankWillDo : Bool) : Option Exchange → Nat
  | some (.reply status body) =>
    if status = 401 then 3
    else if isReadable blankWillDo (Response.ofReply status body).body then 0
    else 1
  | _ => 0

/-- The flows that a sweep removes: those of a listing that was answered and can be read. -/
def listedKeys (node table : Nat) : Option Exchange → List FlowKey
  | some (.reply status body) =>
    if status = 401 then []
    else
      match (Response.ofReply status body).jsonOrNull with
      | .ok raw => (Listing.ofAnswer node table raw).keys
      | .error _ => []
  | _ => []

/-- What a command asks of the controller: to read one path, to make changes one after the other,
or to list the flows of a table and remove them. -/
inductive Plan
  | reading (path : String) (blankWillDo : Bool)
  | writing (changes : List Target)
  | sweeping (node table : Nat)

namespace Plan

def removal (key : FlowKey) : Target := ⟨.delete, Session.flowPath key, none⟩

def targets (c : Controller) : Plan → List Target
  | reading path _ => [⟨.get, path, none⟩]
  | writing changes => changes
  | sweeping node table =>
    ⟨.get, Restconf.Path.flowTable node table, none⟩ :: (listedKeys node table c.next).map removal

def verdict (c : Controller) : Plan → Nat
  | reading _ blankWillDo => readingCode blankWillDo c.next
  | writing _ => 0
  | sweeping _ _ => readingCode true c.next

end Plan

/-- How requests end that go out in order, within a time if one is set, up to the first without a
complete answer: the exit code, and the controller they leave. -/
structure Ends (timeout : Option Nat) (requests : List Request) (verdict : Nat)
    (before : Controller) (code : Nat) (after : Controller) : Prop where
  code : code = ((before.exchanges requests).findSome? (faultCode? timeout)).getD verdict
  after : after = before.after (requests.take
    ((before.exchanges requests).findIdx (fun x => (faultCode? timeout x).isSome) + 1))

namespace Ends

variable {timeout : Option Nat} {request : Request} {rest : List Request} {verdict code : Nat}
  {c after : Controller}

theorem nil (timeout : Option Nat) (verdict : Nat) (c : Controller) :
    Ends timeout [] verdict c verdict c := ⟨rfl, rfl⟩

theorem fault (h : faultCode? timeout c.next = some code) (rest : List Request) (verdict : Nat) :
    Ends timeout (request :: rest) verdict c code (c.receive request).2 := by
  refine ⟨?_, ?_⟩
  · simp [Controller.exchanges, h]
  · simp [Controller.exchanges, List.findIdx_cons, h]

theorem cons (h : faultCode? timeout c.next = none)
    (hrest : Ends timeout rest verdict (c.receive request).2 code after) :
    Ends timeout (request :: rest) verdict c code after := by
  refine ⟨?_, ?_⟩
  · rw [hrest.code]
    simp [Controller.exchanges, h]
  · rw [hrest.after]
    simp [Controller.exchanges, List.findIdx_cons, h]

end Ends

/-! ## Errors as exit codes -/

def endCode {ε α : Type} (code : ε → Nat) : Except ε α → Nat
  | .ok _ => 0
  | .error e => code e

section

variable {ε ε' α β : Type} {code : ε' → Nat}

theorem endCode_mapError (f : ε → ε') (x : Except ε α) :
    endCode code (x.mapError f) = endCode (code ∘ f) x := by
  cases x <;> rfl

theorem endCode_map (f : α → β) (x : Except ε' α) : endCode code (x.map f) = endCode code x := by
  cases x <;> rfl

end

def harnessCode (e : Harness.Error) : Nat := (Error.ofHarness e).exitCode

def callCode (e : Http.Error) : Nat := harnessCode (.ofHttp e)

theorem endCode_lift {α : Type} (action : Restconf.Action α) (s : Session) :
    endCode harnessCode (Harness.lift action s).1 = endCode callCode (action s).1 := by
  simp only [Harness.lift]
  cases (action s).1 <;> rfl

/-- A call gets a complete answer, or else it fails with the exit code of the fault. -/
theorem answer_cases (c : Client) (request : Request) (x : Option Exchange) :
    (∃ e, c.answer request x = .error e ∧ faultCode? c.timeout x = some (callCode e)) ∨
      ∃ status body, x = some (.reply status body) ∧ faultCode? c.timeout x = none ∧
        c.answer request x = .ok (Response.ofReply status body) := by
  cases x with
  | none => exact .inl ⟨_, rfl, rfl⟩
  | some x =>
      cases x with
      | reply status body => exact .inr ⟨status, body, rfl, rfl, rfl⟩
      | drop | truncate => exact .inl ⟨_, rfl, rfl⟩
      | hang =>
          rw [faultCode?, Client.answer]
          cases c.timeout <;> exact .inl ⟨_, rfl, rfl⟩

theorem endCode_json (r : Response) :
    endCode callCode r.json = if isReadable false r.body then 0 else 1 := by
  unfold Response.json isReadable
  cases Json.parse r.body <;> rfl

theorem endCode_jsonOrNull (r : Response) :
    endCode callCode r.jsonOrNull = if isReadable true r.body then 0 else 1 := by
  unfold Response.jsonOrNull
  by_cases hblank : Text.isBlankText r.body = true
  · rw [if_pos hblank]
    simp [endCode, isReadable, hblank]
  · rw [if_neg hblank, endCode_json]
    simp [isReadable, hblank]

theorem endCode_reading {α : Type} {parse : Response → Except Http.Error α} {blankWillDo : Bool}
    (hparse : ∀ r, endCode callCode (parse r) = if isReadable blankWillDo r.body then 0 else 1)
    (path : String) (status : Nat) (body : List UInt8) :
    endCode callCode ((Session.reading path (Response.ofReply status body)).bind parse) =
      readingCode blankWillDo (some (.reply status body)) := by
  have hread : Session.reading path (Response.ofReply status body) =
      if status = 401 then .error (.unauthorized path) else .ok (Response.ofReply status body) := rfl
  rw [hread, readingCode]
  by_cases hstatus : status = 401
  · rw [if_pos hstatus, if_pos hstatus]
    rfl
  · rw [if_neg hstatus, if_neg hstatus]
    exact hparse _

/-! ## Operations -/

def Makes (c : Client) (request : Target → Request) : Prop :=
  ∀ t : Target, IsAbsolute t.path → c.prepare t.method t.path t.payload = .ok (request t)

/-- Whether an action that makes requests for some targets ends as they do. -/
def Asks {ε α : Type} (code : ε → Nat) (action : ExceptT ε (StateM Session) α)
    (targets : Controller → List Target) (verdict : Controller → Nat) : Prop :=
  ∀ (s : Session) (request : Target → Request), Makes s.client request →
    Ends s.client.timeout ((targets s.controller).map request) (verdict s.controller) s.controller
      (endCode code (action s).1) (action s).2.controller

section

variable {α : Type} {s : Session} {request : Target → Request}

theorem Makes.pointedAt {c : Client} (h : Makes c request) (path : String) :
    Makes (c.pointedAt path) request := by
  intro t ht
  rw [Client.prepare_pointedAt]
  exact h t ht

theorem asks_reading {action : Restconf.Action α} {path : String} (hpath : IsAbsolute path)
    {parse : Response → Except Http.Error α} {blankWillDo : Bool}
    (haction : ∀ s, action s = ((s.exchange .get path none).1.bind fun r =>
      (Session.reading path r).bind parse, (s.exchange .get path none).2))
    (hparse : ∀ r, endCode callCode (parse r) = if isReadable blankWillDo r.body then 0 else 1) :
    Asks callCode action (fun _ => [⟨.get, path, none⟩])
      (fun c => readingCode blankWillDo c.next) := by
  intro s request hmakes
  rw [haction, Session.exchange_ok (hmakes ⟨.get, path, none⟩ hpath), Controller.receive_fst]
  dsimp only
  rcases answer_cases s.client (request ⟨.get, path, none⟩) s.controller.next with
    ⟨e, he, hfault⟩ | ⟨status, body, hnext, hfault, hreply⟩
  · rw [he]
    exact .fault hfault _ _
  · refine .cons hfault ?_
    have hcode : endCode callCode ((Session.reading path (Response.ofReply status body)).bind parse) =
        readingCode blankWillDo s.controller.next := by
      rw [hnext]
      exact endCode_reading hparse path status body
    rw [hreply, ← hcode]
    exact .nil _ _ _

theorem topology_asks :
    Asks callCode Session.topology (fun _ => [⟨.get, Restconf.Path.topology, none⟩])
      (fun c => readingCode false c.next) :=
  asks_reading Restconf.Path.isAbsolute_topology Session.topology_apply endCode_json

theorem statistics_asks :
    Asks callCode Session.statistics (fun _ => [⟨.get, Restconf.Path.statistics, none⟩])
      (fun c => readingCode false c.next) :=
  asks_reading Restconf.Path.isAbsolute_statistics Session.statistics_apply fun r =>
    (endCode_map _ r.json).trans (endCode_json r)

theorem listFlows_asks (node table : Nat) :
    Asks callCode (Session.listFlows node table)
      (fun _ => [⟨.get, Restconf.Path.flowTable node table, none⟩])
      (fun c => readingCode true c.next) :=
  asks_reading (Restconf.Path.isAbsolute_flowTable node table) (Session.listFlows_apply node table)
    fun r => (endCode_map _ r.jsonOrNull).trans (endCode_jsonOrNull r)

theorem endCode_eq_failure? (x : Except Http.Error α) :
    endCode callCode x = (Invocation.failure? x).elim 0 callCode := by
  cases x <;> rfl

theorem asks_change {action : Restconf.Action α} (op : Invocation) {t : Target}
    (ht : op.target? = some t) (hrun : ∀ s, op.run s = Invocation.outcome action s)
    (hjudge : op.judge = fun _ => none) :
    Asks callCode action (fun _ => [t]) (fun _ => 0) := by
  intro s request hmakes
  have hexchange := Session.exchange_ok (hmakes t (Invocation.target?_isAbsolute ht))
  obtain ⟨hfailure, hleft⟩ :=
    Prod.ext_iff.mp ((hrun s).symm.trans (Invocation.run_eq_exchange ht s))
  rw [hexchange, Controller.receive_fst] at hfailure
  rw [hexchange] at hleft
  dsimp only [Invocation.outcome] at hfailure hleft
  rw [endCode_eq_failure?, hfailure, hleft]
  rcases answer_cases s.client (request t) s.controller.next with
    ⟨e, he, hfault⟩ | ⟨status, body, -, hfault, hreply⟩
  · rw [he]
    exact .fault hfault _ _
  · rw [hreply, hjudge]
    exact .cons hfault (.nil _ _ _)

end

/-! ## Operations in order -/

theorem exitCode_ne_zero (e : Error) : e.exitCode ≠ 0 := by
  cases e <;> simp [Error.exitCode]

theorem harnessCode_ne_zero (e : Harness.Error) : harnessCode e ≠ 0 := exitCode_ne_zero _

theorem callCode_ne_zero (e : Http.Error) : callCode e ≠ 0 := exitCode_ne_zero _

theorem faultCode?_ne_zero {timeout : Option Nat} {x : Option Exchange} {code : Nat}
    (h : faultCode? timeout x = some code) : code ≠ 0 := by
  unfold faultCode? at h
  split at h <;> cases h
  any_goals decide
  split <;> decide

section

variable {ε α β : Type} {code : ε → Nat}

theorem asks_pure (a : α) :
    Asks code (pure a : ExceptT ε (StateM Session) α) (fun _ => []) (fun _ => 0) :=
  fun _ _ _ => .nil _ _ _

theorem Asks.map {x : ExceptT ε (StateM Session) α} {targets : Controller → List Target}
    {verdict : Controller → Nat} (hx : Asks code x targets verdict) (f : α → β) :
    Asks code (x >>= fun a => pure (f a)) targets verdict := by
  intro s request hmakes
  rw [bind_pure_apply, endCode_map]
  exact hx s request hmakes

/-- A change in front of others: it fails exactly if its request is not answered completely. -/
theorem Asks.bind {x : ExceptT ε (StateM Session) α} {f : α → ExceptT ε (StateM Session) β}
    {t : Target} {rest : List Target} (hx : Asks code x (fun _ => [t]) (fun _ => 0))
    (hissues : Follows Session.Issues x) (hcode : ∀ e, code e ≠ 0)
    (hf : ∀ a, Asks code (f a) (fun _ => rest) (fun _ => 0)) :
    Asks code (x >>= f) (fun _ => t :: rest) (fun _ => 0) := by
  intro s request hmakes
  obtain ⟨hend, hafter⟩ := hx s request hmakes
  have hleft : (x s).2.controller = (s.controller.receive (request t)).2 := by
    rw [hafter]
    simp [Controller.exchanges]
  have hnext : endCode code (x s).1 = (faultCode? s.client.timeout s.controller.next).getD 0 := by
    rw [hend]
    cases hfault : faultCode? s.client.timeout s.controller.next <;>
      simp [Controller.exchanges, hfault]
  have hmakes' : Makes (x s).2.client request := by
    unfold Makes
    rw [Session.prepare_of_pointedAt (hissues s).client]
    exact hmakes
  have htimeout : (x s).2.client.timeout = s.client.timeout :=
    Session.timeout_of_pointedAt (hissues s).client
  cases hrun : x s with
  | mk r s' =>
      rw [hrun] at hleft hnext hmakes' htimeout
      cases r with
      | error e =>
          rw [bind_error hrun]
          have hfault : faultCode? s.client.timeout s.controller.next = some (code e) := by
            cases hfault : faultCode? s.client.timeout s.controller.next with
            | none => exact absurd (by simpa [endCode, hfault] using hnext) (hcode e)
            | some fault => simpa [endCode, hfault, eq_comm] using hnext
          rw [hleft]
          exact .fault hfault _ _
      | ok a =>
          rw [bind_ok hrun]
          have hfault : faultCode? s.client.timeout s.controller.next = none := by
            cases hfault : faultCode? s.client.timeout s.controller.next with
            | none => rfl
            | some fault =>
                exact absurd (by simpa [endCode, hfault, eq_comm] using hnext)
                  (faultCode?_ne_zero hfault)
          refine .cons hfault ?_
          rw [← hleft, ← htimeout]
          exact hf a s' request hmakes'

end

theorem removeKeys_asks (keys : List FlowKey) :
    Asks callCode (Session.removeKeys keys) (fun _ => keys.map Plan.removal) (fun _ => 0) := by
  induction keys with
  | nil => exact asks_pure _
  | cons key rest ih =>
      refine (asks_change (.removeFlowKey key) rfl (fun _ => rfl) rfl).bind
        (Session.removeFlowKey_issues key) callCode_ne_zero fun outcome => ?_
      exact ih.map _

theorem listFlows_answered_eq {node table : Nat} {s : Session} {get : Request} {reply : Response}
    (hget : s.client.prepare .get (Restconf.Path.flowTable node table) none = .ok get)
    (hreply : s.client.answer get (s.controller.receive get).1 = .ok reply) :
    Session.listFlows node table s =
      (((Session.reading (Restconf.Path.flowTable node table) reply).bind Response.jsonOrNull).map
        (Listing.ofAnswer node table), s.afterAsking node table get) := by
  rw [Session.listFlows_answered hget hreply]
  cases Session.reading (Restconf.Path.flowTable node table) reply <;> rfl

theorem listedKeys_reply (node table status : Nat) (body : List UInt8) :
    listedKeys node table (some (.reply status body)) =
      ((Session.reading (Restconf.Path.flowTable node table) (Response.ofReply status body)).bind
        Response.jsonOrNull).toOption.elim [] fun raw => (Listing.ofAnswer node table raw).keys := by
  have hread : Session.reading (Restconf.Path.flowTable node table) (Response.ofReply status body) =
      if status = 401 then .error (.unauthorized (Restconf.Path.flowTable node table))
      else .ok (Response.ofReply status body) := rfl
  rw [hread, listedKeys]
  by_cases hstatus : status = 401
  · rw [if_pos hstatus, if_pos hstatus]
    rfl
  · rw [if_neg hstatus, if_neg hstatus]
    change _ = (Response.ofReply status body).jsonOrNull.toOption.elim [] _
    cases (Response.ofReply status body).jsonOrNull <;> rfl

theorem removeAllFlows_asks (node table : Nat) :
    Asks callCode (Session.removeAllFlows node table) (Plan.sweeping node table).targets
      (Plan.sweeping node table).verdict := by
  intro s request hmakes
  have hget := hmakes ⟨.get, Restconf.Path.flowTable node table, none⟩
    (Restconf.Path.isAbsolute_flowTable node table)
  have hanswer := s.controller.receive_fst
    (request ⟨.get, Restconf.Path.flowTable node table, none⟩)
  simp only [Plan.targets, Plan.verdict, List.map_cons]
  rcases answer_cases s.client (request ⟨.get, Restconf.Path.flowTable node table, none⟩)
      s.controller.next with ⟨e, he, hfault⟩ | ⟨status, body, hnext, hfault, hreply⟩
  · rw [← hanswer] at he
    rw [Session.removeAllFlows_of_error (Session.listFlows_unanswered hget he)]
    exact .fault hfault _ _
  · rw [← hanswer] at hreply
    have hlist := listFlows_answered_eq hget hreply
    have hcode := endCode_reading endCode_jsonOrNull (Restconf.Path.flowTable node table) status body
    refine .cons hfault ?_
    rw [hnext, ← hcode, listedKeys_reply]
    cases hraw : (Session.reading (Restconf.Path.flowTable node table)
        (Response.ofReply status body)).bind Response.jsonOrNull with
    | error e =>
        rw [hraw] at hlist
        rw [Session.removeAllFlows_of_error hlist]
        exact .nil _ _ _
    | ok raw =>
        rw [hraw] at hlist
        rw [Session.removeAllFlows_of_ok hlist]
        have hafter : Makes (s.afterAsking node table (request
            ⟨.get, Restconf.Path.flowTable node table, none⟩)).client request :=
          hmakes.pointedAt _
        exact removeKeys_asks _ _ request hafter

/-! ## Actions of a harness -/

section

variable {α β : Type} {operation : Restconf.Action α} {targets : Controller → List Target}
  {verdict : Controller → Nat}

theorem lift_asks (h : Asks callCode operation targets verdict) :
    Asks harnessCode (Harness.lift operation) targets verdict := by
  intro s request hmakes
  rw [endCode_lift]
  exact h s request hmakes

end

theorem addFlows_asks {flows : List Value} {changes : List Target}
    (h : flows.map (fun flow => (Invocation.addFlow flow).target?) = changes.map some) :
    Asks harnessCode (Harness.addFlows flows) (fun _ => changes) (fun _ => 0) := by
  induction flows generalizing changes with
  | nil =>
      obtain rfl : changes = [] := by simpa using h.symm
      exact asks_pure _
  | cons flow rest ih =>
      cases changes with
      | nil => cases h
      | cons t changes =>
          obtain ⟨ht, hrest⟩ := List.cons_eq_cons.mp h
          have hrun : ∀ s, (Invocation.addFlow flow).run s =
              Invocation.outcome (Session.addFlow flow) s := fun _ => rfl
          have hadd := asks_change (.addFlow flow) ht hrun rfl
          refine (lift_asks hadd).bind (Harness.follows_lift (Session.addFlow_issues flow))
            harnessCode_ne_zero fun outcome => ?_
          exact (ih hrest).map _

end Command

end FlowConsole
