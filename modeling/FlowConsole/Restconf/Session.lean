import FlowConsole.Record.Listing
import FlowConsole.Record.Statistics
import FlowConsole.Restconf.Outcome
import FlowConsole.Restconf.Path
/-!
Operations on the controller: reading the topology, flows and statistics, and changing flows and
CMTS nodes.

Each operation points the client at a path of its own and makes one call; the sweep over a table
makes one call more for each flow it lists.
-/
namespace FlowConsole.Restconf

open Http Record
open Json (Value)

def defaultPort : Nat := 8181

/-- A client and the controller it talks to. The client keeps the path of the last call, also of
one that failed. -/
structure Session where
  client : Client
  controller : Controller

/-- An operation of a session. An error leaves what was done before it in place. -/
abbrev Action (α : Type) := ExceptT Error (StateM Session) α

namespace Session

def ofClient (client : Client) (port : Nat) (controller : Controller) : Session :=
  { client := { client with port }, controller }

def callAt (path : String) (call : Client → Call Response) : Action Response := fun s =>
  let client := { s.client with path := some path }
  let r := call client s.controller
  (r.1, { client, controller := r.2 })

/-- Reads a path. Rejected credentials are an error here, where no outcome could explain them. -/
def read (path : String) : Action Response := do
  let r ← callAt path Client.get
  if r.status = 401 then throw (.unauthorized path) else pure r

def change (operation : Operation) (path : String) (call : Client → Call Response) :
    Action Outcome := do
  let r ← callAt path call
  pure (.ofResponse operation r)

def flowPath (key : FlowKey) : String :=
  Path.flow key.node key.table key.id

def flowKey (flow : Value) : Action FlowKey :=
  match FlowKey.ofRecord flow with
  | .ok key => pure key
  | .error problem => throw (.ofRecord problem)

def cmtsKey (cmts : Value) : Action CmtsKey :=
  match CmtsKey.ofRecord cmts with
  | .ok key => pure key
  | .error problem => throw (.ofRecord problem)

def ofResult {α : Type} : Except Error α → Action α
  | .ok a => pure a
  | .error e => throw e

def topology : Action Value := do
  let r ← read Path.topology
  ofResult r.json

/-- The flows in a table. A blank answer lists none. -/
def listFlows (node table : Nat) : Action Listing := do
  let r ← read (Path.flowTable node table)
  let raw ← ofResult r.jsonOrNull
  pure (.ofAnswer node table raw)

def addFlow (flow : Value) : Action Outcome := do
  let key ← flowKey flow
  change .flowAdd (flowPath key) (·.put flow)

def updateFlow (flow : Value) : Action Outcome := do
  let key ← flowKey flow
  change .flowAdd (flowPath key) (·.post flow)

def removeFlowKey (key : FlowKey) : Action Outcome :=
  change .flowDelete (flowPath key) Client.remove

def removeFlow (flow : Value) : Action Outcome := do
  let key ← flowKey flow
  removeFlowKey key

/-- Removes flows one after the other. The first call that fails ends the sweep. -/
def removeKeys : List FlowKey → Action (List Removal)
  | [] => pure []
  | key :: rest => do
    let outcome ← removeFlowKey key
    let removals ← removeKeys rest
    pure ({ key, outcome } :: removals)

/-- Removes every flow of a table that can be addressed, in the order in which they are listed. -/
def removeAllFlows (node table : Nat) : Action (List Removal) := do
  let listing ← listFlows node table
  removeKeys listing.keys

def statistics : Action (List SwitchCounters) := do
  let r ← read Path.statistics
  let report ← ofResult r.json
  pure (countersOfReport report)

def addCmts (cmts : Value) : Action Outcome := do
  let key ← cmtsKey cmts
  change .cmtsAdd (Path.cmts key.id) (·.put cmts)

def removeCmts (cmts : Value) : Action Outcome := do
  let key ← cmtsKey cmts
  change .cmtsDelete (Path.cmts key.id) Client.remove

end Session

end FlowConsole.Restconf
