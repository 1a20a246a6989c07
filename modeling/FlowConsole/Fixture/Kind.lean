import FlowConsole.Json.Printer
import FlowConsole.Json.Reader
/-!
What a fixture describes, by the first known shape that its text has.
-/
namespace FlowConsole.Fixture

open Json

inductive Kind
  | cmts (address : String)
  | flow (name : String)
  | invalid
deriving DecidableEq, Repr

namespace Kind

def label : Kind → String
  | .cmts _ => "cmts"
  | .flow _ => "flow"
  | .invalid => "invalid json file"

def detail? : Kind → Option String
  | .cmts address => some address
  | .flow name => some name
  | .invalid => none

/-- A string as it is, anything else as compact JSON. -/
def scalar : Value → String
  | .string s => s
  | v => v.compact

/-- The kind of a record: a CMTS if it holds an address under either name of the node, else a flow
if it holds a flow with a name. -/
def ofRecord (record : Value) : Kind :=
  let addressUnder (key : String) : Option Value := (record.get? key).bind (Value.get? "address")
  match (addressUnder "cmts-node").or (addressUnder "packetcable-cmts:cmts-node") with
  | some address => .cmts (scalar address)
  | none =>
    match (record.get? "flow").bind (Value.get? "flow-name") with
    | some name => .flow (scalar name)
    | none => .invalid

def ofText (text : String) : Kind :=
  match Json.parse text with
  | .ok record => ofRecord record
  | .error _ => .invalid

end Kind

end FlowConsole.Fixture
