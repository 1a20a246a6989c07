import FlowConsole.Proofs.Fixture.Scan
/-!
Which files a scan finds.

A scan asks for files by the end of their names, but it looks at a name from its last dot on. So an
extension that has a dot in it is never met, however many names end in it.
-/
namespace FlowConsole

namespace Files.Path

theorem dot_not_mem_of_extension? {name extension : String}
    (h : extension? name = some extension) : '.' ∉ extension.toList := by
  obtain ⟨⟨stem, after⟩, hsplit, rfl⟩ := Option.map_eq_some_iff.mp h
  rw [String.toList_ofList]
  exact (splitExtension?_eq_some_iff.mp hsplit).2.1

end Files.Path

namespace Fixture

open Entries (Sorted)
open Files (Node)
open Text

theorem visited_eq_nil {extension : String} (h : '.' ∈ extension.toList)
    (entries : List (String × Node)) : visited extension entries = [] := by
  refine List.filterMap_eq_nil_iff.mpr fun file _ => ?_
  exact if_neg fun hextension => Files.Path.dot_not_mem_of_extension? hextension h

/-- A file whose name ends in the extension is found exactly if there is no dot in the extension. -/
theorem scan_finds_iff (tree : Files.Tree) {root : String} {entries : List (String × Node)}
    (hroot : tree.find root = .ok (.directory entries))
    (extension : String) :
    ∃ store, scan tree root extension = .ok store ∧ ∀ path stem text,
      IsFixture entries (bareExtension extension) path stem text →
        (stem ∈ store.names ↔ '.' ∉ (bareExtension extension).toList) := by
  refine ⟨_, scan_eq hroot extension, fun path stem text hfixture => ?_⟩
  rw [mem_names_ofList_map]
  constructor
  · rintro ⟨found, hfound, -⟩ hdot
    rw [visited_eq_nil hdot] at hfound
    cases hfound
  · intro hdot
    have hentries := Files.Tree.find_isOrdered hroot
    exact ⟨(path, stem, text), (mem_visited_iff hdot hentries).mpr hfixture, rfl⟩

def twoDotsEntries : List (String × Node) :=
  [("voice.flow.json", .file (Utf8.encode "1".toList))]

theorem twoDotsEntries_isOrdered : (Node.directory twoDotsEntries).IsOrdered := by
  simp only [twoDotsEntries, Node.isOrdered_directory_iff, List.forall_mem_cons,
    Node.IsOrdered.file, List.not_mem_nil, false_imp_iff, implies_true, and_true, Sorted]
  decide

def twoDots : Files.Tree := treeOf twoDotsEntries_isOrdered

theorem twoDots_find : twoDots.find "fx" = .ok (.directory twoDotsEntries) :=
  find_treeOf twoDotsEntries_isOrdered

theorem twoDots_isFixture {stem extension : String} (hne : stem ≠ "")
    (hname : stem ++ "." ++ extension = "voice.flow.json") :
    IsFixture twoDotsEntries extension ["voice.flow.json"] stem "1" :=
  ⟨by rw [hname]; rfl, hne, rfl⟩

theorem scan_finds_json :
    twoDots.find "fx" = .ok (.directory twoDotsEntries) ∧
      IsFixture twoDotsEntries (bareExtension ".json") ["voice.flow.json"] "voice.flow" "1" ∧
      ∃ store, scan twoDots "fx" ".json" = .ok store ∧ "voice.flow" ∈ store.names := by
  have hfixture : IsFixture twoDotsEntries (bareExtension ".json") ["voice.flow.json"]
      "voice.flow" "1" := twoDots_isFixture (by decide) (by decide)
  obtain ⟨store, hscan, hfinds⟩ :=
    scan_finds_iff twoDots twoDots_find ".json"
  exact ⟨twoDots_find, hfixture, store, hscan,
    (hfinds _ _ _ hfixture).mpr (by decide)⟩

/-- A scan for `flow.json` comes back empty from a directory with such a file. -/
theorem scan_misses_flowJson :
    IsFixture twoDotsEntries (bareExtension "flow.json") ["voice.flow.json"] "voice" "1" ∧
      scan twoDots "fx" "flow.json" = .ok .empty := by
  refine ⟨twoDots_isFixture (by decide) (by decide), ?_⟩
  have hscan : scan twoDots "fx" "flow.json" =
      .ok (Store.ofList ((visited (bareExtension "flow.json") twoDotsEntries).map Prod.snd)) :=
    scan_eq twoDots_find "flow.json"
  rw [hscan, visited_eq_nil (by decide)]
  rfl

end Fixture

end FlowConsole
