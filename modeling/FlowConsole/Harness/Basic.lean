import FlowConsole.Fixture.Store
import FlowConsole.Harness.Error
import FlowConsole.Menu.Action
import FlowConsole.Record.Builtin
import FlowConsole.Restconf.Session
/-!
A harness: fixtures, a target table, and the actions of the menu on a session with the controller.

Actions run one after the other. A call that fails ends its action with an error.
-/
namespace FlowConsole

open Http (Controller)
open Json (Value)
open Record (Builtin Listing SwitchCounters)
open Restconf (Outcome Removal Session)

namespace Harness

structure Login where
  username : String
  password : String
deriving DecidableEq, Repr

/-- How to reach the controller, and the table that listing and sweeping act on. `timeout` is in
milliseconds; without one a call waits as long as it takes. -/
structure Settings where
  host : String
  port : Nat
  login : Option Login
  timeout : Option Nat
  node : Nat
  table : Nat
deriving DecidableEq, Repr

def Settings.standard : Settings :=
  { host := "127.0.0.1", port := Restconf.defaultPort
    login := some { username := "admin", password := "admin" }
    timeout := none, node := 1, table := 0 }

inductive Report
  | outcome (outcome : Outcome)
  | removals (removals : List Removal)
  | topology (nodes : Value)
  | flows (listing : Listing)
  | statistics (switches : List SwitchCounters)
  | catalogue (entries : List Fixture.Entry)
  | quit

end Harness

structure Harness where
  fixtures : Fixture.Store
  node : Nat
  table : Nat

namespace Harness

abbrev Action (α : Type) := ExceptT Error (StateM Session) α

def fixtureRecord (fixtures : Fixture.Store) (name : String) : Except Error Value :=
  match fixtures.get? name with
  | some text => (Json.parse text).mapError (.malformedFixture name)
  | none => .error (.unknownRecord name)

def ofSettings (settings : Settings) (fixtures : Fixture.Store) : Harness :=
  { fixtures, node := settings.node, table := settings.table }

def connect (settings : Settings) (controller : Controller) : Session :=
  let client := Http.Client.ofHost settings.host settings.timeout
  let credentials : Option Http.Credentials :=
    settings.login.map fun l => { username := l.username, password := l.password }
  .ofClient { client with credentials } settings.port controller

/-- An operation of the session, its errors in the user's terms. -/
def lift {α : Type} (action : Restconf.Action α) : Action α := fun session =>
  let r := action session
  (match r.1 with
    | .ok a => .ok a
    | .error e => .error (.ofHttp e), r.2)

/-- The record of a name: a fixture, or else a built-in record. A fixture that is not JSON is an
error, also where a built-in record has its name. -/
def record (h : Harness) (name : String) : Except Error Value :=
  if (h.fixtures.get? name).isSome then fixtureRecord h.fixtures name
  else
    match Builtin.ofName? name with
    | some b => .ok b.record
    | none => .error (.unknownRecord name)

/-- Adds the flows one after the other; the first call that fails ends it. -/
def addFlows : List Value → Action (List Outcome)
  | [] => pure []
  | flow :: rest => do
    let outcome ← lift (Session.addFlow flow)
    let outcomes ← addFlows rest
    pure (outcome :: outcomes)

def severalFlows : List Builtin :=
  [.flow1, .flow2, .flow3, .flow4, .flow5]

def addSeveralFlows : Action (List Outcome) :=
  addFlows (severalFlows.map Builtin.record)

def listFlows (h : Harness) : Action Listing :=
  lift (Session.listFlows h.node h.table)

def removeAllFlows (h : Harness) : Action (List Removal) :=
  lift (Session.removeAllFlows h.node h.table)

def run (h : Harness) (action : Menu.Action) : Action Report :=
  let outcome (a : Restconf.Action Outcome) : Action Report := do pure (.outcome (← lift a))
  match action with
  | .addCmts1 => outcome (Session.addCmts Builtin.cmts1.record)
  | .addCmts2 => outcome (Session.addCmts Builtin.cmts2.record)
  | .addFlow1 => outcome (Session.addFlow Builtin.flow1.record)
  | .addFlow2 => outcome (Session.addFlow Builtin.flow2.record)
  | .removeFlow1 => outcome (Session.removeFlow Builtin.flow1.record)
  | .removeFlow2 => outcome (Session.removeFlow Builtin.flow2.record)
  | .removeAllFlows => do pure (.removals (← h.removeAllFlows))
  | .listFlowStats => do pure (.statistics (← lift Session.statistics))
  | .listTopology => do pure (.topology (← lift Session.topology))
  | .listFlows => do pure (.flows (← h.listFlows))
  | .removeCmts2 => outcome (Session.removeCmts Builtin.cmts2.record)
  | .removeCmts1 => outcome (Session.removeCmts Builtin.cmts1.record)
  | .printJson => pure (.catalogue h.fixtures.catalogue)
  | .quit => pure .quit

end Harness

end FlowConsole
