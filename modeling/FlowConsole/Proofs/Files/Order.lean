import Mathlib.Data.List.Lex
import FlowConsole.Proofs.Files.Tree
import FlowConsole.Proofs.Text.ByteOrder
/-!
Trees whose directories are in order, and the files of a tree as a depth-first visit meets them.

A visit that takes the entries of each
directory one after the other meets every file once, in the order of the bytes of the names on the
ways to them.
-/
namespace FlowConsole.Files

open Entries (Sorted)
open Text

namespace Node

theorem induction {P : Node → Prop} (file : ∀ bytes, P (.file bytes))
    (link : ∀ target, P (.link target))
    (directory : ∀ entries : List (String × Node),
      (∀ e ∈ entries, P e.2) → P (.directory entries)) : ∀ node, P node
  | .file bytes => file bytes
  | .link target => link target
  | .directory entries => directory entries fun e _ => induction file link directory e.2
termination_by node => sizeOf node
decreasing_by
  have hmem := List.sizeOf_lt_of_mem ‹e ∈ entries›
  obtain ⟨name, node⟩ := e
  simp only [Prod.mk.sizeOf_spec, Node.directory.sizeOf_spec] at hmem ⊢
  omega

/-! ## Directories in order -/

theorem IsOrdered.at? {root node : Node} {path : List String} (h : root.IsOrdered)
    (hat : root.at? path = some node) : node.IsOrdered := by
  induction path generalizing root with
  | nil => exact Option.some.inj hat ▸ h
  | cons name rest ih =>
      rw [at?_cons] at hat
      obtain ⟨inner, hinner, hrest⟩ := Option.bind_eq_some_iff.mp hat
      exact ih (h.entries.2 _ (Entries.mem_of_lookup hinner)) hrest

theorem isOrdered_directory_iff {entries : List (String × Node)} :
    (directory entries).IsOrdered ↔ Sorted entries ∧ ∀ e ∈ entries, e.2.IsOrdered :=
  ⟨IsOrdered.entries, fun h => .directory h.1 h.2⟩

/-! ## The files of a tree -/

mutual

/-- The files in a node as a depth-first visit meets them, each with the way to it. -/
def files : Node → List (List String × List UInt8)
  | .file bytes => [([], bytes)]
  | .link _ => []
  | .directory entries => filesAmong entries

def filesAmong : List (String × Node) → List (List String × List UInt8)
  | [] => []
  | (name, node) :: rest =>
    (node.files.map fun file => (name :: file.1, file.2)) ++ filesAmong rest

end

theorem mem_filesAmong_iff {entries : List (String × Node)} {path : List String}
    {bytes : List UInt8} :
    (path, bytes) ∈ filesAmong entries ↔ ∃ name node rest,
      (name, node) ∈ entries ∧ path = name :: rest ∧ (rest, bytes) ∈ node.files := by
  induction entries with
  | nil => simp [filesAmong]
  | cons entry entries ih =>
      obtain ⟨name, node⟩ := entry
      rw [filesAmong, List.mem_append, ih]
      constructor
      · rintro (h | ⟨name', node', rest, hmem, hpath, hfile⟩)
        · obtain ⟨⟨rest, _⟩, hfile, heq⟩ := List.mem_map.mp h
          cases heq
          exact ⟨name, node, rest, List.mem_cons_self, rfl, hfile⟩
        · exact ⟨name', node', rest, List.mem_cons_of_mem _ hmem, hpath, hfile⟩
      · rintro ⟨name', node', rest, hmem, rfl, hfile⟩
        rcases List.mem_cons.mp hmem with heq | hmem
        · cases heq
          exact .inl (List.mem_map.mpr ⟨_, hfile, rfl⟩)
        · exact .inr ⟨name', node', rest, hmem, rfl, hfile⟩

theorem mem_files_iff {node : Node} (h : node.IsOrdered) {path : List String}
    {bytes : List UInt8} : (path, bytes) ∈ node.files ↔ node.at? path = some (.file bytes) := by
  induction node using Node.induction generalizing path with
  | file content =>
      rw [files, List.mem_singleton]
      cases path with
      | nil => simp [Node.at?, eq_comm]
      | cons name rest => simp [Node.at?, Node.entries]
  | link target =>
      rw [files]
      cases path <;> simp [Node.at?, Node.entries]
  | directory entries ih =>
      obtain ⟨hsorted, hinner⟩ := isOrdered_directory_iff.mp h
      rw [files, mem_filesAmong_iff]
      constructor
      · rintro ⟨name, node, rest, hmem, rfl, hfile⟩
        rw [at?_cons, Node.entries, hsorted.lookup_eq_some_iff.mpr hmem]
        exact (ih _ hmem (hinner _ hmem)).mp hfile
      · intro hat
        cases path with
        | nil => cases hat
        | cons name rest =>
            rw [at?_cons] at hat
            obtain ⟨node, hnode, hrest⟩ := Option.bind_eq_some_iff.mp hat
            have hmem := hsorted.lookup_eq_some_iff.mp hnode
            exact ⟨name, node, rest, hmem, rfl, (ih _ hmem (hinner _ hmem)).mpr hrest⟩

/-- Whether a depth-first visit that takes entries in the order of the bytes of their names comes to
one place before another. -/
def VisitedBefore (path other : List String) : Prop :=
  List.Lex (fun name name' => Utf8.encode name.toList < Utf8.encode name'.toList) path other

theorem visitedBefore_iff {path other : List String} : VisitedBefore path other ↔ path < other := by
  unfold VisitedBefore
  simp only [Utf8.encode_toList_lt_iff]
  rfl

theorem pairwise_filesAmong {entries : List (String × Node)} (hsorted : Sorted entries)
    (h : ∀ e ∈ entries, e.2.files.Pairwise fun file file' => file.1 < file'.1) :
    (filesAmong entries).Pairwise fun file file' => file.1 < file'.1 := by
  induction entries with
  | nil => exact List.Pairwise.nil
  | cons entry entries ih =>
      obtain ⟨name, node⟩ := entry
      obtain ⟨hfirst, hsorted⟩ := List.pairwise_cons.mp hsorted
      rw [filesAmong, List.pairwise_append]
      refine ⟨?_, ih hsorted fun e he => h e (List.mem_cons_of_mem _ he), ?_⟩
      · rw [List.pairwise_map]
        refine (h _ List.mem_cons_self).imp fun hlt => ?_
        exact List.Lex.cons hlt
      · intro file hfile file' hfile'
        obtain ⟨inner, -, rfl⟩ := List.mem_map.mp hfile
        obtain ⟨path', bytes'⟩ := file'
        obtain ⟨name', node', rest, hmem, rfl, -⟩ := mem_filesAmong_iff.mp hfile'
        exact List.Lex.rel (hfirst _ hmem)

theorem pairwise_files {node : Node} (h : node.IsOrdered) :
    node.files.Pairwise fun file file' => file.1 < file'.1 := by
  induction node using Node.induction with
  | file content => exact List.pairwise_singleton _ _
  | link target => exact List.Pairwise.nil
  | directory entries ih =>
      obtain ⟨hsorted, hinner⟩ := isOrdered_directory_iff.mp h
      rw [files]
      exact pairwise_filesAmong hsorted fun e he => ih e he (hinner e he)

end Node

namespace Tree

theorem find_isOrdered {t : Tree} {path : String} {node : Node} (hfind : t.find path = .ok node) :
    node.IsOrdered := by
  obtain ⟨here, hfinds⟩ := find_eq_ok_iff.mp hfind
  exact t.ordered.at? hfinds.leads.node_eq.symm

end Tree

end FlowConsole.Files
