import FlowConsole.Proofs.Restconf.Path
import FlowConsole.Proofs.Restconf.Session
import Mathlib.Data.List.Forall2
/-!
The sweep over a flow table.

It asks for the listing once and then deletes what is listed, one flow after the other, up to the
first deletion that gets no answer. A status is an answer, whatever it says.
-/
namespace FlowConsole.Restconf.Session

open Http Record
open Json (Value)

/-- The statuses whose meaning is documented for the deletion of a flow. -/
def deletionMeanings : List (Nat × String) := [
  (204, "Flow Config deleted successfully"),
  (401, "User not authorized to perform this operation"),
  (404, "The Container Name or Node-id or Flow Name passed is not found"),
  (406, "Failed to delete Flow config due to invalid operation. " ++
    "Failure details included in HTTP Error response"),
  (500, "Failed to delete Flow config. Failure Reason included in HTTP Error response"),
  (503, "One or more of Controller service is unavailable")]

theorem explain?_flowDelete (status : Nat) :
    Operation.flowDelete.explain? status = deletionMeanings.lookup status := by
  simp only [Operation.explain?]
  split
  case h_7 =>
    rw [eq_comm, List.lookup_eq_none_iff]
    simp_all [deletionMeanings]
  all_goals rfl

/-- What a sweep reports for a flow whose deletion was answered. -/
def removal (key : FlowKey) (answer : Response) : Removal :=
  { key
    outcome :=
      { status := answer.status, reason := answer.reason
        explanation := deletionMeanings.lookup answer.status, body := answer.body } }

theorem removal_eq (key : FlowKey) (answer : Response) :
    removal key answer = { key, outcome := .ofResponse .flowDelete answer } := by
  rw [Outcome.ofResponse, explain?_flowDelete]
  rfl

/-- Whether a removal tells of the reply to the deletion of a flow. -/
structure Tells (removal : Removal) (key : FlowKey) (code : Nat) (bytes : List UInt8) : Prop where
  key : removal.key = key
  status : removal.outcome.status = code
  reason : removal.outcome.reason = reasonPhrase code
  explanation : removal.outcome.explanation = deletionMeanings.lookup code
  body : removal.outcome.body = if hasNoBody code then "" else Text.Utf8.decodeLossy bytes

theorem removal_tells (key : FlowKey) (code : Nat) (bytes : List UInt8) :
    Tells (removal key (.ofReply code bytes)) key code bytes :=
  ⟨rfl, rfl, rfl, rfl, rfl⟩

/-- What the deletions of a sweep come to, and the controller they leave: either each of them is
answered, or one is not and ends the sweep. -/
inductive Swept (c : Client) (delete : FlowKey → Request) (controller : Controller)
    (keys : List FlowKey) : Except Error (List Removal) → Controller → Prop
  | answered (replies : List Response)
      (hreplies : c.answers controller (keys.map delete) = replies.map .ok) :
      Swept c delete controller keys (.ok (List.zipWith removal keys replies))
        (controller.after (keys.map delete))
  | cut (front : List FlowKey) (key : FlowKey) (back : List FlowKey) (replies : List Response)
      (e : Error) (hkeys : keys = front ++ key :: back)
      (hreplies : c.answers controller ((front ++ [key]).map delete) =
        replies.map .ok ++ [.error e]) :
      Swept c delete controller keys (.error e) (controller.after ((front ++ [key]).map delete))

section

variable {c : Client} {delete : FlowKey → Request} {controller : Controller} {key : FlowKey}
  {keys : List FlowKey}

theorem Swept.keys_eq {removals : List Removal} {left : Controller}
    (h : Swept c delete controller keys (.ok removals) left) : removals.map Removal.key = keys := by
  cases h with
  | answered replies hreplies =>
      have hlength := c.answers_length controller (keys.map delete)
      rw [hreplies, List.length_map, List.length_map] at hlength
      rw [← List.map_uncurry_zip_eq_zipWith, List.map_map]
      exact List.map_fst_zip (Nat.le_of_eq hlength.symm)

theorem Swept.log_eq {result : Except Error (List Removal)} {left : Controller}
    (h : Swept c delete controller keys result left) (hreachable : controller.reachable = true) :
    ∃ sent, sent <+: keys ∧ left.log = controller.log ++ sent.map delete := by
  cases h with
  | answered replies hreplies =>
      exact ⟨keys, List.prefix_rfl, Controller.after_log hreachable _⟩
  | cut front key back replies e hkeys hreplies =>
      refine ⟨front ++ [key], ⟨back, ?_⟩, Controller.after_log hreachable _⟩
      rw [hkeys, List.append_assoc, List.singleton_append]

/-- A sweep that ends well got a reply to each deletion, and its removals tell of those. -/
theorem Swept.tells {removals : List Removal} {left : Controller}
    (h : Swept c delete controller keys (.ok removals) left) :
    ∃ replies : List (Nat × List UInt8),
      controller.exchanges (keys.map delete) = replies.map (fun r => some (.reply r.1 r.2)) ∧
      List.Forall₂ (fun removal p => Tells removal p.1 p.2.1 p.2.2) removals (keys.zip replies) := by
  cases h with
  | answered answered hanswered =>
      obtain ⟨replies, hreplies, rfl⟩ := Client.exists_replies_of_answers hanswered
      refine ⟨replies, hreplies, ?_⟩
      rw [List.zipWith_map_right, ← List.map_uncurry_zip_eq_zipWith, List.forall₂_map_left_iff]
      exact List.forall₂_same.mpr fun p _ => removal_tells p.1 p.2.1 p.2.2

theorem Swept.of_pointedAt {path : String} {result : Except Error (List Removal)}
    {left : Controller} (h : Swept (c.pointedAt path) delete controller keys result left) :
    Swept c delete controller keys result left := by
  cases h with
  | answered replies hreplies =>
      rw [Client.answers_pointedAt] at hreplies
      exact .answered replies hreplies
  | cut front key back replies e hkeys hreplies =>
      rw [Client.answers_pointedAt] at hreplies
      exact .cut front key back replies e hkeys hreplies

theorem Swept.head_error {e : Error}
    (he : c.answer (delete key) (controller.receive (delete key)).1 = .error e) :
    Swept c delete controller (key :: keys) (.error e) (controller.receive (delete key)).2 := by
  apply Swept.cut [] key keys [] e rfl
  rw [List.nil_append, List.map_singleton, Client.answers, he]
  rfl

theorem Swept.head_ok {reply : Response} {result : Except Error (List Removal)}
    {left : Controller}
    (hreply : c.answer (delete key) (controller.receive (delete key)).1 = .ok reply)
    (hrest : Swept c delete (controller.receive (delete key)).2 keys result left) :
    Swept c delete controller (key :: keys) (result.map (removal key reply :: ·)) left := by
  cases hrest with
  | answered replies hreplies =>
      apply Swept.answered (reply :: replies)
      rw [List.map_cons, Client.answers, hreply, hreplies]
      rfl
  | cut front next back replies e hkeys hreplies =>
      apply Swept.cut (key :: front) next back (reply :: replies) e
      · rw [hkeys]
        rfl
      · rw [List.cons_append, List.map_cons, Client.answers, hreply, hreplies]
        rfl

end

theorem removeKeys_cons (key : FlowKey) (rest : List FlowKey) (s : Session) :
    removeKeys (key :: rest) s =
      match removeFlowKey key s with
      | (.error e, s') => (.error e, s')
      | (.ok outcome, s') =>
        ((removeKeys rest s').1.map (Removal.mk key outcome :: ·), (removeKeys rest s').2) := by
  cases hstep : removeFlowKey key s with
  | mk r s' =>
      cases r with
      | error e => exact bind_error hstep _
      | ok outcome =>
          rw [removeKeys, bind_ok hstep]
          exact bind_pure_apply (removeKeys rest) (Removal.mk key outcome :: ·) s'

/-- The deletions of a sweep. The induction is on the keys; each answered deletion hands its
controller on to the rest. -/
theorem removeKeys_swept {delete : FlowKey → Request} (keys : List FlowKey) (s : Session)
    (hdelete : ∀ key, s.client.prepare .delete (flowPath key) none = .ok (delete key)) :
    Swept s.client delete s.controller keys (removeKeys keys s).1
      (removeKeys keys s).2.controller := by
  induction keys generalizing s with
  | nil => exact Swept.answered [] rfl
  | cons key rest ih =>
      have hstep := removeFlowKey_apply key s
      rw [exchange_ok (hdelete key)] at hstep
      rw [removeKeys_cons]
      cases hanswer : s.client.answer (delete key) (s.controller.receive (delete key)).1 with
      | error e =>
          rw [hanswer] at hstep
          rw [hstep]
          exact Swept.head_error hanswer
      | ok reply =>
          rw [hanswer] at hstep
          rw [hstep]
          have hrest := ih ⟨s.client.pointedAt (flowPath key), (s.controller.receive (delete key)).2⟩
            (by simpa using hdelete)
          have hswept := Swept.head_ok hanswer hrest.of_pointedAt
          rw [removal_eq] at hswept
          exact hswept

theorem exists_delete {node table : Nat} {c : Client} {get : Request}
    (h : c.prepare .get (Path.flowTable node table) none = .ok get) :
    ∃ delete : FlowKey → Request,
      ∀ key, c.prepare .delete (flowPath key) none = .ok (delete key) := by
  have hkey : ∀ key, ∃ request, c.prepare .delete (flowPath key) none = .ok request := by
    intro key
    exact Client.prepare_ok_of_prepare_ok (Path.isAbsolute_flowTable node table)
      (Path.isAbsolute_flow key.node key.table key.id) h
  exact ⟨fun key => (hkey key).choose, fun key => (hkey key).choose_spec⟩

/-! ## The listing -/

section

variable {node table : Nat} {s : Session} {get : Request}

def afterAsking (node table : Nat) (get : Request) (s : Session) : Session :=
  { client := s.client.pointedAt (Path.flowTable node table)
    controller := (s.controller.receive get).2 }

theorem listFlows_unanswered
    (hget : s.client.prepare .get (Path.flowTable node table) none = .ok get) {e : Error}
    (he : s.client.answer get (s.controller.receive get).1 = .error e) :
    listFlows node table s = (.error e, s.afterAsking node table get) := by
  rw [listFlows_apply, exchange_ok hget, he]
  rfl

theorem listFlows_answered
    (hget : s.client.prepare .get (Path.flowTable node table) none = .ok get) {reply : Response}
    (hreply : s.client.answer get (s.controller.receive get).1 = .ok reply) :
    listFlows node table s =
      ((reading (Path.flowTable node table) reply).bind fun r =>
        r.jsonOrNull.map (Listing.ofAnswer node table), s.afterAsking node table get) := by
  rw [listFlows_apply, exchange_ok hget, hreply]
  rfl

theorem removeAllFlows_of_error {e : Error} {left : Session}
    (h : listFlows node table s = (.error e, left)) :
    removeAllFlows node table s = (.error e, left) :=
  bind_error h _

theorem removeAllFlows_of_ok {listing : Listing} {left : Session}
    (h : listFlows node table s = (.ok listing, left)) :
    removeAllFlows node table s = removeKeys listing.keys left :=
  bind_ok h _

end

/-- The whole sweep. Unless the listing is answered, without a word about credentials and with
JSON or nothing in it, no flow is deleted. Otherwise the flows are deleted that can be addressed,
each one once and in the order of the listing. What is reported in the end tells of each flow how
its deletion was answered; the controller has got the listing's request and then the deletions, all
of them or up to the one that was not answered. -/
theorem removeAllFlows_sweeps (node table : Nat) (s : Session) :
    let path := Path.flowTable node table
    let swept := removeAllFlows node table s
    (∀ e, s.client.prepare .get path none = .error e →
      swept.1 = .error e ∧ swept.2.controller = s.controller) ∧
    ∀ get, s.client.prepare .get path none = .ok get →
      let answer := s.client.answer get (s.controller.receive get).1
      let asked := s.controller.after [get]
      s.client.AsksFor .get path get ∧
      (∀ e, answer = .error e → swept.1 = .error e ∧ swept.2.controller = asked) ∧
      ∀ reply, answer = .ok reply →
        (reply.status = 401 →
          swept.1 = .error (.unauthorized path) ∧ swept.2.controller = asked) ∧
        (reply.status ≠ 401 → ∀ e, reply.jsonOrNull = .error e →
          swept.1 = .error e ∧ swept.2.controller = asked) ∧
        (reply.status ≠ 401 → ∀ raw, reply.jsonOrNull = .ok raw →
          let keys := (Listing.ofAnswer node table raw).keys
          ∃ delete : FlowKey → Request,
            (∀ key, s.client.prepare .delete (flowPath key) none = .ok (delete key) ∧
              s.client.AsksFor .delete (flowPath key) (delete key)) ∧
            Swept s.client delete asked keys swept.1 swept.2.controller ∧
            (∀ removals, swept.1 = .ok removals →
              removals.map Removal.key = keys ∧
              ∃ replies : List (Nat × List UInt8),
                asked.exchanges (keys.map delete) =
                  replies.map (fun r => some (.reply r.1 r.2)) ∧
                List.Forall₂ (fun removal p => Tells removal p.1 p.2.1 p.2.2) removals
                  (keys.zip replies)) ∧
            (s.controller.reachable = true → ∃ sent, sent <+: keys ∧
              swept.2.controller.log = s.controller.log ++ get :: sent.map delete)) := by
  intro path swept
  constructor
  · intro e he
    have hlist := listFlows_apply node table s
    rw [exchange_error he] at hlist
    have hswept : swept = _ := removeAllFlows_of_error hlist
    rw [hswept]
    exact ⟨rfl, rfl⟩
  · intro get hget answer asked
    refine ⟨Client.asksFor_of_prepare hget, ?unanswered, ?answered⟩
    case unanswered =>
      intro e he
      have hswept : swept = _ := removeAllFlows_of_error (listFlows_unanswered hget he)
      rw [hswept]
      exact ⟨rfl, rfl⟩
    case answered =>
      intro reply hreply
      have hlist := listFlows_answered hget hreply
      rw [reading] at hlist
      refine ⟨?unauthorized, ?unreadable, ?listed⟩
      case unauthorized =>
        intro hstatus
        rw [if_pos hstatus] at hlist
        have hswept : swept = _ := removeAllFlows_of_error hlist
        rw [hswept]
        exact ⟨rfl, rfl⟩
      case unreadable =>
        intro hstatus e he
        rw [if_neg hstatus, Except.bind, he] at hlist
        have hswept : swept = _ := removeAllFlows_of_error hlist
        rw [hswept]
        exact ⟨rfl, rfl⟩
      case listed =>
        intro hstatus raw hraw
        rw [if_neg hstatus, Except.bind, hraw] at hlist
        have hswept : swept = _ := removeAllFlows_of_ok hlist
        obtain ⟨delete, hdelete⟩ := exists_delete hget
        have hruns : Swept s.client delete asked (Listing.ofAnswer node table raw).keys swept.1
            swept.2.controller := by
          rw [hswept]
          apply Swept.of_pointedAt
          exact removeKeys_swept (Listing.ofAnswer node table raw).keys
            (s.afterAsking node table get) (by simpa [afterAsking] using hdelete)
        refine ⟨delete, fun key => ⟨hdelete key, Client.asksFor_of_prepare (hdelete key)⟩, hruns,
          ?reports, ?logs⟩
        case reports =>
          intro removals hremovals
          rw [hremovals] at hruns
          exact ⟨hruns.keys_eq, hruns.tells⟩
        case logs =>
          intro hreachable
          obtain ⟨sent, hsent, hlog⟩ :=
            hruns.log_eq ((s.controller.receive_reachable get).trans hreachable)
          refine ⟨sent, hsent, ?_⟩
          rw [hlog, Controller.after_log hreachable, List.append_assoc, List.singleton_append]

end FlowConsole.Restconf.Session
