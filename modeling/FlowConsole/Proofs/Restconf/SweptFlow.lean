import FlowConsole.Proofs.Http.Echo
import FlowConsole.Proofs.Record.Listing
import FlowConsole.Proofs.Restconf.Sweep
import FlowConsole.Proofs.Restconf.Traffic
import FlowConsole.Record.Builtin
/-!
A flow that was added, in the sweep over its table.

The key of a flow is read in one way where it stands alone, and in another where it is listed. A
record that has a key alone has it as listed too, at the node and table of the listing. So a sweep
over its table deletes it where it was put.
-/
namespace FlowConsole

open Http
open Json (Value)

namespace Record

/-! ## The three shapes of a listing -/

/-- Whether an answer lists a flow. The flows of tables are looked at where there is no array
`flowConfig`, and the flows beside them where there is no array of tables either. -/
inductive Lists (raw flow : Value) : Prop
  | config {flows : List Value} (h : raw.get? "flowConfig" = some (.array flows))
      (hmem : flow ∈ flows)
  | ofTable {tables flows : List Value} {table : Value}
      (hconfig : ∀ flows, raw.get? "flowConfig" ≠ some (.array flows))
      (htables : raw.get? "flow-node-inventory:table" = some (.array tables))
      (htable : table ∈ tables) (h : table.get? "flow" = some (.array flows)) (hmem : flow ∈ flows)
  | bare {flows : List Value} (hconfig : ∀ flows, raw.get? "flowConfig" ≠ some (.array flows))
      (htables : ∀ tables, raw.get? "flow-node-inventory:table" ≠ some (.array tables))
      (h : raw.get? "flow" = some (.array flows)) (hmem : flow ∈ flows)

theorem mem_listedFlows {raw flow : Value} (h : Lists raw flow) : flow ∈ listedFlows raw := by
  unfold listedFlows
  cases h with
  | config h hmem =>
      simp only [bind_array?_eq_some h]
      exact hmem
  | ofTable hconfig htables htable h hmem =>
      simp only [bind_array?_eq_none hconfig, bind_array?_eq_some htables]
      apply List.mem_flatMap_of_mem htable
      rw [bind_array?_eq_some h]
      exact hmem
  | bare hconfig htables h hmem =>
      simp only [bind_array?_eq_none hconfig, bind_array?_eq_none htables, bind_array?_eq_some h]
      exact hmem

/-! ## One key for both readings -/

section

variable {record : Value} {key : FlowKey}

theorem FlowKey.ofListed_of_ofRecord (h : FlowKey.ofRecord record = .ok key) (node table : Nat) :
    FlowKey.ofListed record node table = .ok { key with node, table } := by
  obtain ⟨-, -, hid, hname⟩ := FlowKey.ofRecord_eq_ok_iff.mp h
  -- the id of the record comes first in both readings, so the name is never asked
  rw [FlowKey.ofListed_eq_ok_iff, FlowKey.ofListed_toOption, hid, hname]
  rfl

theorem mem_keys_of_lists (h : FlowKey.ofRecord record = .ok key) {raw : Value}
    (hlists : Lists raw record) : key ∈ (Listing.ofAnswer key.node key.table raw).keys := by
  rw [Listing.mem_keys_iff]
  exact ⟨record, mem_listedFlows hlists, FlowKey.ofListed_of_ofRecord h key.node key.table⟩

end

end Record

namespace Http.Client

theorem answers_append (c : Client) (controller : Controller) (first rest : List Request) :
    c.answers controller (first ++ rest) =
      c.answers controller first ++ c.answers (controller.after first) rest := by
  induction first generalizing controller with
  | nil => rfl
  | cons request first ih => simp [answers, ih]

theorem url_eq_of_prepare {c : Client} {path : String} {method method' : Method}
    {payload payload' : Option Value} {request request' : Request}
    (h : c.prepare method path payload = .ok request)
    (h' : c.prepare method' path payload' = .ok request') :
    request.method = method ∧ request.body = payload.elim "" Value.compact ∧
      request.url = request'.url := by
  unfold prepare at h h'
  cases hurl : Url.parse (c.urlText path) with
  | error e =>
      rw [hurl] at h
      cases h
  | ok url =>
      rw [hurl] at h h'
      simp only [Except.mapError, Except.bind] at h h'
      split at h
      · split at h'
        · obtain rfl := Except.ok.inj h
          obtain rfl := Except.ok.inj h'
          exact ⟨rfl, rfl, rfl⟩
        · cases h'
      · cases h

end Http.Client

namespace Restconf

open Record

namespace Session

/-- A sweep comes to a key unless a deletion in front of it gets no answer. -/
theorem Swept.reaches {c : Client} {delete : FlowKey → Request} {controller left : Controller}
    {front back : List FlowKey} {key : FlowKey} {result : Except Error (List Removal)}
    {replies : List Response}
    (h : Swept c delete controller (front ++ key :: back) result left)
    (hfront : c.answers controller (front.map delete) = replies.map .ok) :
    ∃ rest, left = controller.after (front.map delete ++ delete key :: rest) := by
  cases h with
  | answered _ _ =>
      refine ⟨back.map delete, ?_⟩
      rw [List.map_append, List.map_cons]
  | cut front' key' back' replies' e hkeys hreplies =>
      rcases List.append_eq_append_iff.mp hkeys with ⟨between, rfl, hrest⟩ | ⟨between, rfl, hrest⟩
      · cases between with
        | nil =>
            obtain ⟨rfl, -⟩ := List.cons.inj hrest
            refine ⟨[], ?_⟩
            rw [List.append_nil, List.map_append, List.map_singleton]
        | cons next between =>
            obtain ⟨rfl, -⟩ := List.cons.inj hrest
            refine ⟨(between ++ [key']).map delete, ?_⟩
            simp
      · cases between with
        | nil =>
            obtain ⟨rfl, -⟩ := List.cons.inj hrest
            refine ⟨[], ?_⟩
            rw [List.append_nil, List.map_append, List.map_singleton]
        | cons next between =>
            -- the deletion that got no answer would stand among those that got one
            obtain ⟨rfl, -⟩ := List.cons.inj hrest
            have hsplit : (front' ++ key' :: between).map delete =
                (front' ++ [key']).map delete ++ between.map delete := by simp
            rw [hsplit, Client.answers_append, hreplies] at hfront
            have herror : (.error e : Except Error Response) ∈ replies.map .ok := by
              rw [← hfront]
              simp
            obtain ⟨reply, -, hreply⟩ := List.mem_map.mp herror
            cases hreply

theorem exists_get_of_listFlows {node table : Nat} {s asked : Session} {listing : Listing}
    (h : listFlows node table s = (.ok listing, asked)) :
    ∃ get, s.client.prepare .get (Path.flowTable node table) none = .ok get := by
  cases hget : s.client.prepare .get (Path.flowTable node table) none with
  | ok get => exact ⟨get, rfl⟩
  | error e =>
      rw [listFlows_apply, exchange_error hget] at h
      cases h

theorem asked_of_listFlows {node table : Nat} {s asked : Session} {get : Request}
    {result : Except Error Listing}
    (hget : s.client.prepare .get (Path.flowTable node table) none = .ok get)
    (h : listFlows node table s = (result, asked)) : asked = s.afterAsking node table get := by
  rw [listFlows_apply, exchange_ok hget] at h
  exact (congrArg Prod.snd h).symm

theorem listFlows_yields (node table : Nat) (s : Session) :
    Yields (listFlows node table s).1 fun l => l = Listing.ofAnswer node table l.raw := by
  rw [listFlows_apply]
  refine yields_bind fun _ => yields_bind fun _ => yields_map fun _ => ?_
  rfl

section

variable {record : Value} {key : FlowKey} {s : Session} {request : Request}

theorem addFlow_controller (hkey : FlowKey.ofRecord record = .ok key)
    (h : s.client.prepare .put (flowPath key) (some record) = .ok request) :
    (addFlow record s).2.controller = s.controller.after [request] := by
  rw [addFlow_apply hkey, exchange_ok h]
  rfl

theorem removeFlow_controller (hkey : FlowKey.ofRecord record = .ok key)
    (h : s.client.prepare .delete (flowPath key) none = .ok request) :
    (removeFlow record s).2.controller = s.controller.after [request] := by
  rw [removeFlow_apply hkey, removeFlowKey_apply, exchange_ok h]
  rfl

end

end Session

open Session

/-- A record that has a key alone has it in every listing, at the node and table of that. Once a
sweep over its table has it listed, the sweep comes to delete it unless it is cut off before; and
the request is the one that removes the record by itself, to the URL that the record is put to. That
holds whatever path the client was last pointed at. -/
theorem sweep_deletes_added {record : Value} {key : FlowKey}
    (hkey : FlowKey.ofRecord record = .ok key) :
    (∀ node table, FlowKey.ofListed record node table = .ok { key with node, table }) ∧
    (∀ raw, Lists raw record → key ∈ (Listing.ofAnswer key.node key.table raw).keys) ∧
    ∀ s listing asked, listFlows key.node key.table s = (.ok listing, asked) →
      Lists listing.raw record →
      let swept := removeAllFlows key.node key.table s
      key ∈ listing.keys ∧ ∃ (delete : FlowKey → Request) (put : Request),
        (∀ k, s.client.AsksFor .delete (flowPath k) (delete k)) ∧
        Swept s.client delete asked.controller listing.keys swept.1 swept.2.controller ∧
        (∀ front back (replies : List Response), listing.keys = front ++ key :: back →
          s.client.answers asked.controller (front.map delete) = replies.map .ok →
          ∃ rest, swept.2.controller =
            asked.controller.after (front.map delete ++ delete key :: rest)) ∧
        put.method = .put ∧ put.body = record.compact ∧ put.url = (delete key).url ∧
        ∀ s', (∀ path, s'.client.pointedAt path = s.client.pointedAt path) →
          (addFlow record s').2.controller = s'.controller.after [put] ∧
          (removeFlow record s').2.controller = s'.controller.after [delete key] := by
  refine ⟨FlowKey.ofListed_of_ofRecord hkey, fun raw => mem_keys_of_lists hkey, ?_⟩
  intro s listing asked hlist hlists swept
  have hmem : key ∈ listing.keys := by
    have hlisting := listFlows_yields key.node key.table s listing (congrArg Prod.fst hlist)
    rw [hlisting]
    exact mem_keys_of_lists hkey hlists
  obtain ⟨get, hget⟩ := exists_get_of_listFlows hlist
  obtain ⟨delete, hdelete⟩ := exists_delete hget
  obtain ⟨put, hput⟩ : ∃ put, s.client.prepare .put (flowPath key) (some record) = .ok put :=
    Client.prepare_ok_of_prepare_ok (Path.isAbsolute_flowTable key.node key.table)
      (Path.isAbsolute_flow key.node key.table key.id) hget
  obtain ⟨hmethod, hbody, hurl⟩ := Client.url_eq_of_prepare hput (hdelete key)
  have hswept : Swept s.client delete asked.controller listing.keys swept.1
      swept.2.controller := by
    have hswept : swept = _ := removeAllFlows_of_ok hlist
    rw [hswept]
    obtain rfl := asked_of_listFlows hget hlist
    apply Swept.of_pointedAt
    exact removeKeys_swept listing.keys (s.afterAsking key.node key.table get)
      (by simpa [afterAsking] using hdelete)
  refine ⟨hmem, delete, put, fun k => Client.asksFor_of_prepare (hdelete k), hswept, ?reaches,
    hmethod, hbody, hurl, ?alone⟩
  case reaches =>
    intro front back replies hkeys hfront
    rw [hkeys] at hswept
    exact hswept.reaches hfront
  case alone =>
    intro s' hclient
    have hprepare := prepare_of_pointedAt hclient
    constructor
    · apply addFlow_controller hkey
      rw [hprepare]
      exact hput
    · apply removeFlow_controller hkey
      rw [hprepare]
      exact hdelete key

def voiceRecord : Value := .object [("id", .string "voice"), ("node", .ofNat 1)]

/-- A table in which that flow is listed. -/
def voiceTable : Value := .object [("flow", .array [voiceRecord])]

theorem sweep_deletes_voice :
    let s : Session :=
      { client := Client.ofLocalhost
        controller := .scripted [.reply 200 (Text.Utf8.encode voiceTable.compact.toList)] }
    ∃ put delete : Request, put.method = .put ∧ delete.method = .delete ∧ put.url = delete.url ∧
      (addFlow voiceRecord s).2.controller = s.controller.after [put] ∧
      ∃ get rest,
        (removeAllFlows 1 0 s).2.controller = s.controller.after (get :: delete :: rest) := by
  have hjson := Response.json_compact (v := voiceTable) (by decide) (by decide) (by decide)
  have hblank : Text.isBlankText voiceTable.compact = false := by
    simp [voiceTable, Value.compact, Value.compactChars, Text.isBlankText, Text.isBlank]
  generalize voiceTable.compact = text at hjson hblank ⊢
  intro s
  obtain ⟨get, hget⟩ : ∃ get, s.client.prepare .get (Path.flowTable 1 0) none = .ok get :=
    ⟨_, Client.ofLocalhost_isPlain.prepare_eq .get (Path.isAbsolute_flowTable 1 0) none⟩
  have hreply : s.client.answer get (s.controller.receive get).1 =
      .ok { status := 200, reason := reasonPhrase 200, body := text } := by
    change Except.ok _ = _
    rw [Text.Utf8.decodeLossy_encode, String.ofList_toList]
    rfl
  have hlist : listFlows 1 0 s =
      (.ok (Listing.ofAnswer 1 0 voiceTable), s.afterAsking 1 0 get) := by
    rw [listFlows_answered hget hreply]
    simp [reading, Except.bind, Response.jsonOrNull, hblank, hjson, Except.map]
  -- the answer has been read, and what the session holds is not to be unfolded again
  clear_value s
  have hkey : FlowKey.ofRecord voiceRecord =
      .ok { node := 1, table := 0, id := "voice", name := none } := rfl
  have hkeys : (Listing.ofAnswer 1 0 voiceTable).keys = [⟨1, 0, "voice", none⟩] := rfl
  have hlists : Lists voiceTable voiceRecord := by
    refine .bare ?_ ?_ rfl List.mem_cons_self
    · intro flows h
      cases h
    · intro tables h
      cases h
  obtain ⟨-, delete, put, hdelete, -, hreaches, hmethod, -, hurl, halone⟩ :=
    (sweep_deletes_added hkey).2.2 s _ _ hlist hlists
  obtain ⟨rest, hrest⟩ := hreaches [] [] [] hkeys rfl
  simp only [List.map_nil, List.nil_append] at hrest
  refine ⟨put, _, hmethod, (hdelete _).1, hurl, (halone s fun _ => rfl).1, get, rest, ?_⟩
  rw [Controller.after_cons]
  exact hrest

end Restconf

end FlowConsole
