import FlowConsole.Proofs.Http.Exchange
import FlowConsole.Restconf.Path
/-!
Resource paths character by character.
-/
namespace FlowConsole.Restconf.Path

open Http (IsAbsolute)

theorem flowTable_toList (node table : Nat) :
    (flowTable node table).toList =
      nodes.toList ++ "/openflow:".toList ++ Nat.toDigits 10 node ++ "/table/".toList ++
        Nat.toDigits 10 table := by
  simp [flowTable, toString, Nat.repr]

theorem flow_toList (node table : Nat) (id : String) :
    (flow node table id).toList = (flowTable node table).toList ++ "/flow/".toList ++ id.toList := by
  simp [flow, toString]

theorem cmts_toList (id : Nat) :
    (cmts id).toList = nodes.toList ++ "/cmts:".toList ++ Nat.toDigits 10 id := by
  simp [cmts, toString, Nat.repr]

theorem isAbsolute_topology : IsAbsolute topology := ⟨_, rfl⟩

theorem isAbsolute_statistics : IsAbsolute statistics := ⟨_, rfl⟩

theorem isAbsolute_flowTable (node table : Nat) : IsAbsolute (flowTable node table) :=
  ⟨_, flowTable_toList node table⟩

theorem isAbsolute_flow (node table : Nat) (id : String) : IsAbsolute (flow node table id) := by
  obtain ⟨rest, hrest⟩ := isAbsolute_flowTable node table
  refine ⟨rest ++ "/flow/".toList ++ id.toList, ?_⟩
  rw [flow_toList, hrest]
  rfl

theorem isAbsolute_cmts (id : Nat) : IsAbsolute (cmts id) :=
  ⟨_, cmts_toList id⟩

end FlowConsole.Restconf.Path
