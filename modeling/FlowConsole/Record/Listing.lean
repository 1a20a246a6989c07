import FlowConsole.Record.Key
/-!
The flow table of a node, as the controller lists it.
-/
namespace FlowConsole.Record

open Json

structure Listing where
  node : Nat
  table : Nat
  raw : Value
  flows : List Value

/-- The flows in an answer: the array `flowConfig`, else the `flow` arrays of the tables under
`flow-node-inventory:table` one after the other, else the array `flow`, else none. -/
def listedFlows (raw : Value) : List Value :=
  match (raw.get? "flowConfig").bind Value.array? with
  | some flows => flows
  | none =>
    match (raw.get? "flow-node-inventory:table").bind Value.array? with
    | some tables => tables.flatMap fun t => ((t.get? "flow").bind Value.array?).getD []
    | none => ((raw.get? "flow").bind Value.array?).getD []

namespace Listing

def ofAnswer (node table : Nat) (raw : Value) : Listing :=
  { node, table, raw, flows := listedFlows raw }

def isEmpty (l : Listing) : Bool :=
  l.flows.isEmpty

def entries (l : Listing) : List (Option FlowKey) :=
  l.flows.map fun flow => (FlowKey.ofListed flow l.node l.table).toOption

def keys (l : Listing) : List FlowKey :=
  l.entries.filterMap id

end Listing

end FlowConsole.Record
