import FlowConsole.Record.Key
/-!
Envelopes of flows.

A flow stands alone, or under one of two names, there by itself or at the head of an array. Its key
is read off the flow alone: which envelope it is in, and what else is in that, does not matter.
-/
namespace FlowConsole.Record

open Json

/-- Whether a record holds a flow under a name. -/
inductive Holds (record : Value) (name : String) (flow : List (String × Value)) : Prop
  | alone (h : record.get? name = some (.object flow))
  | first (items : List Value) (h : record.get? name = some (.array (.object flow :: items)))

/-- The records that are read as a flow. Under the name with the module it is only looked for where
the name without holds none. -/
inductive Wraps (flow : List (String × Value)) : Value → Prop
  | bare : Wraps flow (.object flow)
  | plain {record : Value} (h : Holds record "flow" flow) : Wraps flow record
  | qualified {record : Value} (hplain : ∀ other, ¬ Holds record "flow" other)
      (h : Holds record "flow-node-inventory:flow" flow) : Wraps flow record

/-- Whether two records have the same key, or the same problem, alone and in every listing. -/
structure SameKey (record record' : Value) : Prop where
  ofRecord : FlowKey.ofRecord record = FlowKey.ofRecord record'
  ofListed : ∀ node table,
    FlowKey.ofListed record node table = FlowKey.ofListed record' node table

section

variable {record record' : Value} {name : String} {flow : List (String × Value)}

theorem Holds.enveloped?_eq (h : Holds record name flow) :
    enveloped? record name = some (.object flow) := by
  cases h with
  | alone h => rw [enveloped?, h]
  | first items h => rw [enveloped?, h]

theorem enveloped?_eq_none (h : ∀ flow, ¬ Holds record name flow) :
    enveloped? record name = none := by
  unfold enveloped?
  split
  · rename_i flow hmember
    exact absurd (.alone hmember) (h flow)
  · rename_i flow items hmember
    exact absurd (.first items hmember) (h flow)
  · rfl

theorem not_holds_of_get?_eq_none (h : record.get? name = none) : ¬ Holds record name flow := by
  intro hholds
  cases hholds with
  | alone hmember => simp [h] at hmember
  | first items hmember => simp [h] at hmember

theorem flowBody_of_holds (h : Holds record "flow" flow) : flowBody record = .object flow := by
  simp [flowBody, h.enveloped?_eq]

theorem flowBody_of_wraps (h : Wraps flow record)
    (hplain : (Value.object flow).get? "flow" = none)
    (hqualified : (Value.object flow).get? "flow-node-inventory:flow" = none) :
    flowBody record = .object flow := by
  cases h with
  | bare =>
      have hnone := enveloped?_eq_none fun _ => not_holds_of_get?_eq_none hplain
      have hnone' := enveloped?_eq_none fun _ => not_holds_of_get?_eq_none hqualified
      simp [flowBody, hnone, hnone']
  | plain h => exact flowBody_of_holds h
  | qualified hnot h => simp [flowBody, enveloped?_eq_none hnot, h.enveloped?_eq]

theorem sameKey_of_flowBody_eq (h : flowBody record = flowBody record') :
    SameKey record record' where
  ofRecord := by simp only [FlowKey.ofRecord, h]
  ofListed := by
    intro node table
    simp only [FlowKey.ofListed, h]

end

/-- A flow without envelopes of its own has the same key in every record that is read as it. Of two
flows in one record that under `flow` is the one read, whatever the other is. -/
theorem envelopes_keep_key (record : Value) (flow : List (String × Value)) :
    ((Value.object flow).get? "flow" = none →
      (Value.object flow).get? "flow-node-inventory:flow" = none →
      Wraps flow record → SameKey record (.object flow)) ∧
    ∀ other, Holds record "flow" flow → Holds record "flow-node-inventory:flow" other →
      flowBody record = .object flow ∧
        ∀ record', Holds record' "flow" flow → SameKey record record' := by
  constructor
  · intro hplain hqualified hwraps
    apply sameKey_of_flowBody_eq
    rw [flowBody_of_wraps hwraps hplain hqualified, flowBody_of_wraps .bare hplain hqualified]
  · intro other hholds _
    refine ⟨flowBody_of_holds hholds, fun record' hholds' => ?_⟩
    apply sameKey_of_flowBody_eq
    rw [flowBody_of_holds hholds, flowBody_of_holds hholds']

def wrappedFlow : List (String × Value) :=
  [("id", .ofNat 4), ("node", .string "openflow:2")]

/-- At the head of an array that it shares with other items, beside a `flow` that holds none. -/
theorem envelopes_keep_key_wrapped :
    let record := Value.object [("flow", .array []),
      ("flow-node-inventory:flow", .array [.object wrappedFlow, .string "rest"])]
    SameKey record (.object wrappedFlow) ∧
      FlowKey.ofRecord record = .ok { node := 2, table := 0, id := "4", name := none } := by
  intro record
  have hsame : SameKey record (.object wrappedFlow) := by
    refine (envelopes_keep_key record wrappedFlow).1 rfl rfl (.qualified ?_ (.first _ rfl))
    intro other hholds
    cases hholds with
    | alone h => cases h
    | first items h => cases h
  exact ⟨hsame, hsame.ofRecord.trans rfl⟩

end FlowConsole.Record
