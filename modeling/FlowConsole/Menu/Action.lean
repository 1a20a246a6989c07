import FlowConsole.Text.Blank
/-!
The numbered actions of the menu. Each key selects exactly one.
-/
namespace FlowConsole.Menu

inductive Action
  | addCmts1
  | addCmts2
  | addFlow1
  | addFlow2
  | removeFlow1
  | removeFlow2
  | removeAllFlows
  | listFlowStats
  | listTopology
  | listFlows
  | removeCmts2
  | removeCmts1
  | printJson
  | quit
deriving DecidableEq, Repr

namespace Action

def all : List Action :=
  [.addCmts1, .addCmts2, .addFlow1, .addFlow2, .removeFlow1, .removeFlow2, .removeAllFlows,
    .listFlowStats, .listTopology, .listFlows, .removeCmts2, .removeCmts1, .printJson, .quit]

def key : Action → String
  | .addCmts1 => "1"
  | .addCmts2 => "2"
  | .addFlow1 => "3"
  | .addFlow2 => "4"
  | .removeFlow1 => "5"
  | .removeFlow2 => "6"
  | .removeAllFlows => "7"
  | .listFlowStats => "8"
  | .listTopology => "9"
  | .listFlows => "10"
  | .removeCmts2 => "11"
  | .removeCmts1 => "12"
  | .printJson => "13"
  | .quit => "q"

def label : Action → String
  | .addCmts1 => "Add CMTS 1"
  | .addCmts2 => "Add CMTS 2"
  | .addFlow1 => "Add Flow 1 CMTS 1"
  | .addFlow2 => "Add Flow 2 CMTS 2"
  | .removeFlow1 => "Remove Flow 1 CMTS 1"
  | .removeFlow2 => "Remove Flow 2 CMTS 2"
  | .removeAllFlows => "Remove All Flows"
  | .listFlowStats => "List Flow Stats"
  | .listTopology => "List Topology"
  | .listFlows => "List Flows"
  | .removeCmts2 => "Remove CMTS 2"
  | .removeCmts1 => "Remove CMTS 1"
  | .printJson => "Print JSON"
  | .quit => "Quit"

/-- The action that a line of input selects. Blanks around it do not matter, and `quit` serves as
well as `q`. -/
def ofKey? (input : String) : Option Action :=
  let key := Text.trim input
  if key = "quit" then some .quit else all.find? fun a => a.key == key

def needsController (a : Action) : Bool :=
  !(a == .printJson || a == .quit)

end Action

end FlowConsole.Menu
