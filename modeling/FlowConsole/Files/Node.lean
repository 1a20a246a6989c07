import FlowConsole.Entries
/-!
Files, links and directories, with the ways that lead into directories.
-/
namespace FlowConsole.Files

inductive Node
  | file (bytes : List UInt8)
  | link (target : String)
  | directory (entries : List (String × Node))
deriving Repr, Inhabited

namespace Node

def isDirectory : Node → Bool
  | .directory _ => true
  | _ => false

def entries : Node → List (String × Node)
  | .directory entries => entries
  | _ => []

/-- Puts a node at the end of a chain of entries. Directories on the way that are missing are made.
-/
def put (tree : Node) : List String → Node → Node
  | [], node => node
  | name :: rest, node =>
    let inner := ((tree.entries.lookup name).getD (.directory [])).put rest node
    .directory (Entries.insert name inner tree.entries)

def at? : List String → Node → Option Node
  | [], node => some node
  | name :: rest, node => (node.entries.lookup name).bind (at? rest)

inductive IsOrdered : Node → Prop
  | file (bytes : List UInt8) : IsOrdered (.file bytes)
  | link (target : String) : IsOrdered (.link target)
  | directory {entries : List (String × Node)} (sorted : Entries.Sorted entries)
      (inner : ∀ e ∈ entries, IsOrdered e.2) : IsOrdered (.directory entries)

theorem isOrdered_empty : (directory []).IsOrdered :=
  .directory Entries.sorted_nil fun _ he => nomatch he

theorem IsOrdered.entries {root : Node} (h : root.IsOrdered) :
    Entries.Sorted root.entries ∧ ∀ e ∈ root.entries, e.2.IsOrdered := by
  cases h with
  | directory sorted inner => exact ⟨sorted, inner⟩
  | file _ | link _ => exact ⟨Entries.sorted_nil, fun e he => nomatch he⟩

theorem IsOrdered.put {root node : Node} (h : root.IsOrdered) (hnode : node.IsOrdered)
    (path : List String) : (root.put path node).IsOrdered := by
  induction path generalizing root with
  | nil => exact hnode
  | cons name rest ih =>
      obtain ⟨hsorted, hinner⟩ := h.entries
      have hold : ((root.entries.lookup name).getD (.directory [])).IsOrdered := by
        cases hlookup : root.entries.lookup name with
        | none => exact isOrdered_empty
        | some old => exact hinner _ (Entries.mem_of_lookup hlookup)
      refine .directory (hsorted.insert name _) fun e he => ?_
      rcases Entries.mem_insert he with rfl | he
      · exact ih hold
      · exact hinner e he

end Node

end FlowConsole.Files
