/-!
Resource paths of the controller. Everything that can be configured hangs off an inventory node.
-/
namespace FlowConsole.Restconf.Path

def topology : String := "/restconf/operational/opendaylight-inventory:nodes"

def statistics : String := "/controller/nb/v2/statistics/default/flow"

def nodes : String := "/restconf/config/opendaylight-inventory:nodes/node"

def flowTable (node table : Nat) : String :=
  s!"{nodes}/openflow:{node}/table/{table}"

/-- A flow of a table. The id is put into the path as it is. -/
def flow (node table : Nat) (id : String) : String :=
  s!"{flowTable node table}/flow/{id}"

def cmts (id : Nat) : String :=
  s!"{nodes}/cmts:{id}"

end FlowConsole.Restconf.Path
