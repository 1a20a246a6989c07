import FlowConsole.Record.Identifier
/-!
Keys: what it takes to address one flow or one CMTS node, read out of a record.

Records stay untyped; only the pieces that a resource path needs are taken out of them, from under
any of the envelopes in common use.
-/
namespace FlowConsole.Record

open Json

inductive Problem
  | noNodeId
  | noFlowId
  | noIdNorName
  | noCmtsId
deriving DecidableEq, Repr

def Problem.message : Problem → String
  | .noNodeId => "flow record has no numeric node id"
  | .noFlowId => "flow record has no flow id"
  | .noIdNorName => "listed flow has neither an id nor a name"
  | .noCmtsId => "CMTS record has no numeric id"

/-- The object held by an envelope: the member itself, or the first item of an array. -/
def enveloped? (record : Value) (key : String) : Option Value :=
  match record.get? key with
  | some (.object members) => some (.object members)
  | some (.array (.object members :: _)) => some (.object members)
  | _ => none

/-- The flow within a record: what `flow` or else `flow-node-inventory:flow` holds, or the record
itself. -/
def flowBody (record : Value) : Value :=
  ((enveloped? record "flow").or (enveloped? record "flow-node-inventory:flow")).getD record

/-- The CMTS node within a record. The name without the module is looked at first, and its value is
taken even if it is no object. -/
def cmtsBody? (record : Value) : Option Value :=
  ((record.get? "cmts-node").or (record.get? "packetcable-cmts:cmts-node")).filter Value.isObject

def defaultTable : Nat := 0

/-- Addresses one configured flow. `id` is the last segment of its path. -/
structure FlowKey where
  node : Nat
  table : Nat
  id : String
  name : Option String
deriving DecidableEq, Repr

/-- The name of a flow, if it is a text; `flow-name` comes before `name`. -/
def flowName? (flow : Value) : Option String :=
  (flow.getString? "flow-name").or (flow.getString? "name")

/-- The node of a flow: `node.id`, or `node` itself if it has no `id`. -/
def nodeId? (flow : Value) : Option Nat :=
  (flow.get? "node").bind fun node => numericId? ((node.get? "id").getD node)

namespace FlowKey

def ofRecord (record : Value) : Except Problem FlowKey :=
  let flow := flowBody record
  match nodeId? flow, (flow.get? "id").bind segmentId? with
  | none, _ => .error .noNodeId
  | some _, none => .error .noFlowId
  | some node, some id =>
    .ok { node, id
          table := ((flow.get? "table_id").bind numericId?).getD defaultTable
          name := flowName? flow }

/-- The key of a flow out of a listing, which fixes node and table. A flow without an id is
addressed by its name. -/
def ofListed (record : Value) (node table : Nat) : Except Problem FlowKey :=
  let flow := flowBody record
  let name := flowName? flow
  match ((flow.get? "id").bind segmentId?).or name with
  | none => .error .noIdNorName
  | some id => .ok { node, table, id, name }

def label (key : FlowKey) : String :=
  key.name.getD s!"flow {key.id}"

end FlowKey

structure CmtsKey where
  id : Nat
  address : Option String
deriving DecidableEq, Repr

/-- The key of a CMTS record. An id within the node comes before one beside it. -/
def CmtsKey.ofRecord (record : Value) : Except Problem CmtsKey :=
  let body := cmtsBody? record
  match ((body.bind (Value.get? "id")).or (record.get? "id")).bind numericId? with
  | none => .error .noCmtsId
  | some id => .ok { id, address := body.bind (·.getString? "address") }

end FlowConsole.Record
