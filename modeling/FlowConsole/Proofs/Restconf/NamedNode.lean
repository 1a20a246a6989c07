import FlowConsole.Proofs.Record.NodeId
import FlowConsole.Proofs.Restconf.History
/-!
Which node the changes to a flow go to.

They go to the node that the record names, and a record that names none is refused before anything
is sent; unless it gives something else that passes for a name, such as the datapath id of a switch.
Of that the last octet is taken for the number of a node.
-/
namespace FlowConsole.Restconf

open Record
open Json (Value)

def changes (record : Value) : List Invocation :=
  [.addFlow record, .updateFlow record, .removeFlow record]

/-- Whether the changes to a flow go to the node that its record names, if any. -/
structure GoesToNamedNode (record : Value) : Prop where
  keyed : ∀ key, FlowKey.ofRecord record = .ok key →
    ∃ v, nodeName? record = some v ∧ Names key.node v
  refused : (∀ v n, nodeName? record = some v → ¬ Names n v) →
    ∃ problem, FlowKey.ofRecord record = .error problem ∧
      ∀ op ∈ changes record, ∀ s : Session, op.run s = (some (.ofRecord problem), s)

/-- Whether a record that is complete otherwise gives something that passes for the name of a node. -/
structure Misleads (record : Value) : Prop where
  passes : ∃ v n, nodeName? record = some v ∧ n < 0x10000000000000000 ∧ PassesFor n v
  hasId : ownId? record ≠ none

section

variable {record : Value}

theorem run_refused {problem : Problem} (h : FlowKey.ofRecord record = .error problem) :
    ∀ op ∈ changes record, ∀ s : Session, op.run s = (some (.ofRecord problem), s) := by
  intro op hop s
  simp only [changes, List.mem_cons, List.not_mem_nil, or_false] at hop
  rcases hop with rfl | rfl | rfl
  all_goals exact Invocation.outcome_error (Session.flowKey_bind_error h _)

theorem exists_nodeName {key : FlowKey} (h : FlowKey.ofRecord record = .ok key) :
    ∃ v, nodeName? record = some v ∧ key.node < 0x10000000000000000 ∧
      (Names key.node v ∨ PassesFor key.node v) := by
  have hnode := (FlowKey.ofRecord_eq_ok_iff.mp h).1
  rw [nodeId?_eq_bind, Option.bind_eq_some_iff] at hnode
  obtain ⟨v, hv, hread⟩ := hnode
  exact ⟨v, hv, numericId?_eq_some_iff.mp hread⟩

theorem Misleads.exists_key (h : Misleads record) :
    ∃ v key, nodeName? record = some v ∧ FlowKey.ofRecord record = .ok key ∧
      PassesFor key.node v := by
  obtain ⟨v, n, hv, hn, hpasses⟩ := h.passes
  obtain ⟨id, hid⟩ := Option.ne_none_iff_exists'.mp h.hasId
  have hnode : nodeId? (flowBody record) = some n := by
    rw [nodeId?_eq_bind, hv, Option.bind_some, numericId?_eq_some_iff]
    exact ⟨hn, .inr hpasses⟩
  have hkey : FlowKey.ofRecord record = .ok ⟨n, _, id, ownName? record⟩ :=
    FlowKey.ofRecord_eq_ok_iff.mpr ⟨hnode, rfl, hid, rfl⟩
  exact ⟨v, _, hv, hkey, hpasses⟩

theorem keyed_of_not_misleads (h : ¬ Misleads record) {key : FlowKey}
    (hkey : FlowKey.ofRecord record = .ok key) :
    ∃ v, nodeName? record = some v ∧ Names key.node v := by
  obtain ⟨v, hv, hn, hnames | hpasses⟩ := exists_nodeName hkey
  · exact ⟨v, hv, hnames⟩
  · have hid := (FlowKey.ofRecord_eq_ok_iff.mp hkey).2.2.1
    exact absurd ⟨⟨v, key.node, hv, hn, hpasses⟩, by simp [hid]⟩ h

end

/-- The changes to a flow go to the node that its record names, exactly if the record gives nothing
else that passes for a name. -/
theorem goesToNamedNode_iff (record : Value) : GoesToNamedNode record ↔ ¬ Misleads record := by
  constructor
  · intro h hmisleads
    obtain ⟨v, key, hv, hkey, hpasses⟩ := hmisleads.exists_key
    obtain ⟨v', hv', hnames⟩ := h.keyed key hkey
    obtain rfl : v = v' := Option.some.inj (hv.symm.trans hv')
    exact hpasses.not_names hnames
  · intro h
    refine ⟨fun key => keyed_of_not_misleads h, fun hnone => ?_⟩
    cases hkey : FlowKey.ofRecord record with
    | ok key =>
        obtain ⟨v, hv, hnames⟩ := keyed_of_not_misleads h hkey
        exact absurd hnames (hnone v _ hv)
    | error problem => exact ⟨problem, rfl, run_refused hkey⟩

/-- A flow of the switch with the datapath id 16. -/
def datapathRecord : Value :=
  .object [("id", .string "1"), ("node", .object [("id", .string "00:00:00:00:00:00:00:10")])]

theorem datapath_taken_for_ten :
    let key : FlowKey := { node := 10, table := 0, id := "1", name := none }
    FlowKey.ofRecord datapathRecord = .ok key ∧
      Session.flowPath key =
        "/restconf/config/opendaylight-inventory:nodes/node/openflow:10/table/0/flow/1" ∧
      ¬ GoesToNamedNode datapathRecord := by
  intro key
  have hkey : FlowKey.ofRecord datapathRecord = .ok key := rfl
  have hname : nodeName? datapathRecord = some (.string "00:00:00:00:00:00:00:10") := rfl
  have hten : IsNumeral 10 "10".toList :=
    ⟨[], [], "10".toList, [], rfl, ⟨0, rfl⟩, .inl rfl, nofun, nofun⟩
  have hcolon : "00:00:00:00:00:00:00:10".toList =
      "00:00:00:00:00:00:00".toList ++ ':' :: "10".toList := rfl
  have hpasses : PassesFor 10 (.string "00:00:00:00:00:00:00:10") :=
    .text hcolon (by decide) hten
  refine ⟨hkey, by decide +kernel, fun h => ?_⟩
  obtain ⟨v, hv, hnames⟩ := h.keyed key hkey
  obtain rfl := Option.some.inj (hname.symm.trans hv)
  exact hpasses.not_names hnames

end FlowConsole.Restconf
