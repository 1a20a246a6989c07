import FlowConsole.Fixture.Scan
import FlowConsole.Proofs.Files.Order
import FlowConsole.Proofs.Fixture.Store
/-!
What a scan collects: the files with the wanted extension that are text, under their stems. Of files
with one stem it is the last one in the order of a depth-first visit.

A file that cannot be read stands in a tree as one whose bytes are no text. A scan passes over both
alike, so neither takes the place of what was found under its stem before.
-/
namespace FlowConsole

namespace Files.Path

theorem splitExtension?_eq_some_iff {name stem extension : List Char} :
    splitExtension? name = some (stem, extension) ↔
      stem ≠ [] ∧ '.' ∉ extension ∧ name = stem ++ '.' :: extension := by
  by_cases hdot : '.' ∈ name
  · obtain ⟨before, after, rfl, hafter⟩ := Text.exists_eq_append_last hdot
    have htail : ((before ++ '.' :: after).reverse.takeWhile (· != '.')).length = after.length := by
      rw [Text.takeWhile_reverse_append hafter, List.length_reverse]
    have hstem : (before ++ '.' :: after).length - after.length - 1 = before.length := by
      rw [List.length_append, List.length_cons]
      omega
    unfold splitExtension?
    dsimp only
    rw [htail, hstem, List.take_left, Text.takeWhile_reverse_append hafter, List.reverse_reverse]
    by_cases hbefore : before = []
    · subst hbefore
      rw [if_pos (.inr (by simp))]
      refine ⟨nofun, fun ⟨hstem, hextension, heq⟩ => absurd ?_ hstem⟩
      exact (Text.append_last_inj hextension hafter heq.symm).1
    · have hpos := List.length_pos_of_ne_nil hbefore
      rw [if_neg (by simp only [List.length_append, List.length_cons]; omega)]
      constructor
      · intro h
        cases h
        exact ⟨hbefore, hafter, rfl⟩
      · rintro ⟨-, hextension, heq⟩
        obtain ⟨rfl, rfl⟩ := Text.append_last_inj hafter hextension heq
        rfl
  · unfold splitExtension?
    dsimp only
    rw [Text.takeWhile_reverse_eq_self hdot, List.length_reverse, if_pos (.inl rfl)]
    refine ⟨nofun, ?_⟩
    rintro ⟨-, -, rfl⟩
    simp at hdot

theorem extension?_and_stem_iff {name stem extension : String} (h : '.' ∉ extension.toList) :
    extension? name = some extension ∧ Path.stem name = stem ↔
      stem ≠ "" ∧ name = stem ++ "." ++ extension := by
  constructor
  · rintro ⟨hextension, rfl⟩
    obtain ⟨⟨front, back⟩, hsplit, rfl⟩ := Option.map_eq_some_iff.mp hextension
    obtain ⟨hne, -, hname⟩ := splitExtension?_eq_some_iff.mp hsplit
    rw [Path.stem, hsplit]
    refine ⟨by simpa using hne, String.toList_inj.mp ?_⟩
    rw [hname]
    simp
  · rintro ⟨hne, rfl⟩
    have hsplit : splitExtension? (stem ++ "." ++ extension).toList =
        some (stem.toList, extension.toList) :=
      splitExtension?_eq_some_iff.mpr ⟨by simpa using hne, h, by simp⟩
    rw [extension?, Path.stem, hsplit]
    simp

example : extension? "a.b.json" = some "json" ∧ Path.stem "a.b.json" = "a.b" ∧
    extension? ".json" = none := by
  decide

end Files.Path

namespace Fixture

open Entries (Sorted)
open Files (Node)
open Text

/-! ## The last of a name -/

section

variable {α : Type} {before : α → α → Prop} {fixture : α → String × String} {l : List α}
  {name text : String}

/-- Whether an item of a list comes after all others of its name. -/
structure IsLast (before : α → α → Prop) (fixture : α → String × String) (l : List α)
    (name : String) (a : α) : Prop where
  mem : a ∈ l
  named : (fixture a).1 = name
  after : ∀ b ∈ l, (fixture b).1 = name → b = a ∨ before b a

theorem get?_ofList_map (hasymm : ∀ a b, before a b → ¬ before b a) (hl : l.Pairwise before) :
    (Store.ofList (l.map fixture)).get? name = some text ↔
      ∃ a, IsLast before fixture l name a ∧ (fixture a).2 = text := by
  rw [Store.get?_ofList_eq_some_iff]
  constructor
  · rintro ⟨front, back, heq, hback⟩
    obtain ⟨first, rest, rfl, rfl, hrest⟩ := List.map_eq_append_iff.mp heq
    obtain ⟨a, rest, rfl, ha, rfl⟩ := List.map_eq_cons_iff.mp hrest
    have hcross := (List.pairwise_append.mp hl).2.2
    refine ⟨a, ⟨by simp, by rw [ha], fun b hb hname => ?_⟩, by rw [ha]⟩
    rcases List.mem_append.mp hb with hb | hb
    · exact .inr (hcross b hb a List.mem_cons_self)
    · rcases List.mem_cons.mp hb with rfl | hb
      · exact .inl rfl
      · exact absurd (List.mem_map.mpr ⟨fixture b, List.mem_map_of_mem hb, hname⟩) hback
  · rintro ⟨a, ⟨ha, rfl, hlast⟩, rfl⟩
    obtain ⟨first, rest, rfl⟩ := List.append_of_mem ha
    have hafter := (List.pairwise_cons.mp (List.pairwise_append.mp hl).2.1).1
    refine ⟨first.map fixture, rest.map fixture, by rw [List.map_append, List.map_cons], ?_⟩
    rw [List.map_map, List.mem_map]
    rintro ⟨b, hb, hname⟩
    rcases hlast b (by simp [hb]) hname with rfl | hbefore
    · exact hasymm b b (hafter b hb) (hafter b hb)
    · exact hasymm b a hbefore (hafter b hb)

theorem mem_names_ofList_map :
    name ∈ (Store.ofList (l.map fixture)).names ↔ ∃ a ∈ l, (fixture a).1 = name := by
  rw [Store.mem_names_ofList, List.map_map, List.mem_map]
  rfl

end

/-! ## The files that are visited -/

/-- A file as a fixture: the way to it, its stem and its text. `name` is that of the node which the
way starts from. -/
def fixture? (extension name : String) (file : List String × List UInt8) :
    Option (List String × String × String) :=
  let last := file.1.getLast?.getD name
  if Files.Path.extension? last = some extension then
    (Utf8.decode? file.2).map fun text => (file.1, Files.Path.stem last, text)
  else none

theorem addFile_eq (extension name : String) (s : Store) (file : List String × List UInt8) :
    addFile extension (file.1.getLast?.getD name) file.2 s =
      (fixture? extension name file).elim s fun f => s.insert f.2.1 f.2.2 := by
  unfold addFile fixture?
  dsimp only
  split
  · cases Utf8.decode? file.2 <;> rfl
  · rfl

theorem foldl_addFile_eq (extension name : String) (files : List (List String × List UInt8))
    (s : Store) :
    files.foldl (fun s file => addFile extension (file.1.getLast?.getD name) file.2 s) s =
      ((files.filterMap (fixture? extension name)).map Prod.snd).foldl
        (fun s f => s.insert f.1 f.2) s := by
  induction files generalizing s with
  | nil => rfl
  | cons file files ih =>
      rw [List.foldl_cons, ih, addFile_eq]
      cases hfixture : fixture? extension name file with
      | none => rw [List.filterMap_cons_none hfixture, Option.elim_none]
      | some f =>
          rw [List.filterMap_cons_some hfixture, List.map_cons, List.foldl_cons, Option.elim_some]

theorem addNode_eq (extension name : String) (s : Store) (node : Node) :
    addNode extension name s node = node.files.foldl
      (fun s file => addFile extension (file.1.getLast?.getD name) file.2 s) s := by
  induction node using Node.induction generalizing name s with
  | file bytes => rfl
  | link target => rfl
  | directory entries ih =>
      rw [addNode, Node.files]
      induction entries generalizing s with
      | nil => rfl
      | cons entry rest ihrest =>
          obtain ⟨first, node⟩ := entry
          rw [addEntries, Node.filesAmong, List.foldl_append, List.foldl_map,
            ih _ List.mem_cons_self, ihrest fun e he => ih e (List.mem_cons_of_mem _ he)]
          simp only [List.getLast?_cons, Option.getD_some]

/-- The fixtures of a directory in the order in which they are visited. -/
def visited (extension : String) (entries : List (String × Node)) :
    List (List String × String × String) :=
  (Node.filesAmong entries).filterMap (fixture? extension "")

theorem scan_eq {tree : Files.Tree} {root : String} {entries : List (String × Node)}
    (hroot : tree.find root = .ok (.directory entries)) (extension : String) :
    scan tree root extension =
      .ok (Store.ofList ((visited (bareExtension extension) entries).map Prod.snd)) := by
  have hstart : startNode tree root = .ok (.directory entries) := by
    rw [startNode, hroot]
    rfl
  rw [scan, hstart]
  change Except.ok (addNode (bareExtension extension) "" .empty (.directory entries)) = _
  rw [addNode_eq, foldl_addFile_eq, Node.files]
  rfl

theorem bareExtension_dots (dots : Nat) {extension : String} (h : '.' ∉ extension.toList) :
    bareExtension (String.ofList (List.replicate dots '.') ++ extension) = extension := by
  have hbare : extension.toList.dropWhile (· == '.') = extension.toList := by
    cases hchars : extension.toList with
    | nil => rfl
    | cons c rest =>
        rw [hchars] at h
        exact List.dropWhile_cons_of_neg fun hc => h (by simp [eq_of_beq hc])
  rw [bareExtension, String.toList_append, String.toList_ofList,
    List.dropWhile_append_of_pos (by simp), hbare, String.ofList_toList]

/-! ## Fixtures of a directory -/

/-- Whether the file at a place in a directory gives a text under a stem. -/
structure IsFixture (entries : List (String × Node)) (extension : String) (path : List String)
    (stem text : String) : Prop where
  named : path.getLast? = some (stem ++ "." ++ extension)
  stem_ne : stem ≠ ""
  holds : (Node.directory entries).at? path = some (.file (Utf8.encode text.toList))

theorem IsFixture.text_eq {entries : List (String × Node)} {path : List String}
    {extension stem stem' text text' : String} (h : IsFixture entries extension path stem text)
    (h' : IsFixture entries extension path stem' text') : text = text' := by
  have hbytes : Utf8.encode text.toList = Utf8.encode text'.toList :=
    Node.file.inj (Option.some.inj (h.holds.symm.trans h'.holds))
  have hread : Utf8.decode? (Utf8.encode text.toList) = some text :=
    Utf8.decode?_eq_some_iff.mpr rfl
  have hread' : Utf8.decode? (Utf8.encode text.toList) = some text' :=
    Utf8.decode?_eq_some_iff.mpr hbytes
  exact Option.some.inj (hread.symm.trans hread')

theorem fixture?_eq_some_iff {extension : String} (h : '.' ∉ extension.toList)
    {file : List String × List UInt8} {path : List String} {stem text : String} :
    fixture? extension "" file = some (path, stem, text) ↔
      path.getLast? = some (stem ++ "." ++ extension) ∧ stem ≠ "" ∧
        file = (path, Utf8.encode text.toList) := by
  obtain ⟨path', bytes⟩ := file
  have hparts : fixture? extension "" (path', bytes) = some (path, stem, text) ↔
      (Files.Path.extension? (path'.getLast?.getD "") = some extension ∧
        Files.Path.stem (path'.getLast?.getD "") = stem) ∧
      path' = path ∧ Utf8.decode? bytes = some text := by
    unfold fixture?
    dsimp only
    split
    · rename_i hextension
      simp only [Option.map_eq_some_iff, Prod.mk.injEq, hextension, true_and]
      grind
    · rename_i hextension
      simp [hextension]
  have hlast : path.getLast?.getD "" = stem ++ "." ++ extension ↔
      path.getLast? = some (stem ++ "." ++ extension) := by
    cases path.getLast? <;> simp
  rw [hparts, Files.Path.extension?_and_stem_iff h, Utf8.decode?_eq_some_iff, Prod.mk.injEq]
  constructor
  · rintro ⟨⟨hne, hnamed⟩, rfl, hbytes⟩
    exact ⟨hlast.mp hnamed, hne, rfl, hbytes⟩
  · rintro ⟨hnamed, hne, rfl, hbytes⟩
    exact ⟨⟨hne, hlast.mpr hnamed⟩, rfl, hbytes⟩

theorem fst_of_fixture? {extension name : String} {file : List String × List UInt8}
    {found : List String × String × String} (h : fixture? extension name file = some found) :
    found.1 = file.1 := by
  unfold fixture? at h
  dsimp only at h
  split at h
  · obtain ⟨text, -, rfl⟩ := Option.map_eq_some_iff.mp h
    rfl
  · cases h

theorem mem_visited_iff {extension : String} (h : '.' ∉ extension.toList)
    {entries : List (String × Node)} (hordered : (Node.directory entries).IsOrdered)
    {path : List String} {stem text : String} :
    (path, stem, text) ∈ visited extension entries ↔
      IsFixture entries extension path stem text := by
  rw [visited, List.mem_filterMap]
  constructor
  · rintro ⟨file, hfile, hfixture⟩
    obtain ⟨hnamed, hne, rfl⟩ := (fixture?_eq_some_iff h).mp hfixture
    exact ⟨hnamed, hne, (Node.mem_files_iff hordered).mp hfile⟩
  · rintro ⟨hnamed, hne, hholds⟩
    have hfile := (Node.mem_files_iff hordered).mpr hholds
    exact ⟨_, hfile, (fixture?_eq_some_iff h).mpr ⟨hnamed, hne, rfl⟩⟩

theorem pairwise_visited (extension : String) {entries : List (String × Node)}
    (hordered : (Node.directory entries).IsOrdered) :
    (visited extension entries).Pairwise fun found found' => found.1 < found'.1 := by
  rw [visited, List.pairwise_filterMap]
  refine (Node.pairwise_files hordered).imp fun {file file'} hlt found hfound found' hfound' => ?_
  rwa [fst_of_fixture? hfound, fst_of_fixture? hfound']

/-- A scan of a directory collects its fixtures. Of those of one name it keeps the one that a
depth-first visit comes to last. Nothing is collected under a root that leads nowhere. -/
theorem scan_collects (tree : Files.Tree) (root : String) (dots : Nat) (extension : String)
    (hextension : '.' ∉ extension.toList) :
    (∀ entries, tree.find root = .ok (.directory entries) →
      ∃ store, scan tree root (String.ofList (List.replicate dots '.') ++ extension) = .ok store ∧
        (∀ stem, stem ∈ store.names ↔ ∃ path text, IsFixture entries extension path stem text) ∧
        ∀ stem text, store.get? stem = some text ↔
          ∃ path, IsFixture entries extension path stem text ∧
            ∀ path' text', IsFixture entries extension path' stem text' →
              path' = path ∨ Node.VisitedBefore path' path) ∧
    ∀ error, tree.find root = .error error →
      scan tree root (String.ofList (List.replicate dots '.') ++ extension) = .error error := by
  constructor
  · intro entries hroot
    have hentries := Files.Tree.find_isOrdered hroot
    have hscan := scan_eq hroot (String.ofList (List.replicate dots '.') ++ extension)
    rw [bareExtension_dots dots hextension] at hscan
    refine ⟨_, hscan, fun stem => ?_, fun stem text => ?_⟩
    · rw [mem_names_ofList_map]
      constructor
      · rintro ⟨⟨path, _, text⟩, hfound, rfl⟩
        exact ⟨path, text, (mem_visited_iff hextension hentries).mp hfound⟩
      · rintro ⟨path, text, hfixture⟩
        exact ⟨_, (mem_visited_iff hextension hentries).mpr hfixture, rfl⟩
    · rw [get?_ofList_map (fun _ _ => lt_asymm) (pairwise_visited extension hentries)]
      constructor
      · rintro ⟨⟨path, _, _⟩, ⟨hfound, rfl, hafter⟩, rfl⟩
        refine ⟨path, (mem_visited_iff hextension hentries).mp hfound, fun path' text' h => ?_⟩
        have hlast := hafter _ ((mem_visited_iff hextension hentries).mpr h) rfl
        exact hlast.imp (congrArg Prod.fst) Node.visitedBefore_iff.mpr
      · rintro ⟨path, hfixture, hlast⟩
        have hfound := (mem_visited_iff hextension hentries).mpr hfixture
        refine ⟨(path, stem, text), ⟨hfound, rfl, ?_⟩, rfl⟩
        rintro ⟨path', _, text'⟩ hfound' rfl
        have hfixture' := (mem_visited_iff hextension hentries).mp hfound'
        rcases hlast path' text' hfixture' with rfl | hbefore
        · exact .inl (by rw [hfixture'.text_eq hfixture])
        · exact .inr (Node.visitedBefore_iff.mp hbefore)
  · intro error herror
    have hstart : startNode tree root = .error error := by
      rw [startNode, herror]
      rfl
    rw [scan, hstart]
    rfl

/-- Three directories with a file of one name, the last of them no text, and beside them a file that
has no stem, one of another name and a link. -/
def benchEntries : List (String × Node) :=
  [("edge", .directory [("voice.json", .file (Utf8.encode "1".toList))]),
   ("edge-west", .directory [("voice.json", .file (Utf8.encode "2".toList))]),
   ("edge.json", .file (Utf8.encode "3".toList)),
   ("spare", .directory [(".json", .file (Utf8.encode "4".toList)), ("voice.json", .file [0xFF])]),
   ("video.json", .link "edge.json")]

theorem benchEntries_isOrdered : (Node.directory benchEntries).IsOrdered := by
  simp only [benchEntries, Node.isOrdered_directory_iff, List.forall_mem_cons,
    Node.IsOrdered.file, Node.IsOrdered.link, List.not_mem_nil, false_imp_iff, implies_true, Sorted]
  decide

def treeOf {entries : List (String × Node)} (h : (Node.directory entries).IsOrdered) : Files.Tree :=
  { root := .directory [("fx", .directory entries)], current := []
    ordered := Node.isOrdered_directory_iff.mpr
      ⟨List.pairwise_singleton _ _, by rwa [List.forall_mem_singleton]⟩ }

def bench : Files.Tree := treeOf benchEntries_isOrdered

theorem find_treeOf {entries : List (String × Node)} (h : (Node.directory entries).IsOrdered) :
    (treeOf h).find "fx" = .ok (.directory entries) := by
  refine Files.Tree.find_eq_ok_iff.mpr ⟨["fx"], rfl, by decide, ?_, fun _ _ h => ?_⟩
  · exact .enter rfl ⟨by decide, by decide, by decide⟩ rfl nofun (.arrived _ _)
  · cases h
    rfl

theorem bench_find : bench.find "fx" = .ok (.directory benchEntries) :=
  find_treeOf benchEntries_isOrdered

theorem decode?_ff : Utf8.decode? [0xFF] = none := by
  simp [Utf8.decode?, Utf8.decodeSteps, Utf8.Lead.of?]

theorem scan_collects_bench :
    '.' ∉ "json".toList ∧ bench.find "fx" = .ok (.directory benchEntries) ∧
      ∃ store, scan bench "fx" ".json" = .ok store ∧ store.get? "voice" = some "2" := by
  have hdot : '.' ∉ "json".toList := by decide
  obtain ⟨store, hscan, -, hget⟩ :=
    (scan_collects bench "fx" 1 "json" hdot).1 benchEntries bench_find
  refine ⟨hdot, bench_find, store, hscan, (hget "voice" "2").mpr ?_⟩
  refine ⟨["edge-west", "voice.json"], ⟨rfl, by decide, rfl⟩, fun path text h => ?_⟩
  have hmem := (Node.mem_files_iff benchEntries_isOrdered).mpr h.holds
  have hfiles : (Node.directory benchEntries).files =
      [(["edge", "voice.json"], Utf8.encode "1".toList),
       (["edge-west", "voice.json"], Utf8.encode "2".toList),
       (["edge.json"], Utf8.encode "3".toList), (["spare", ".json"], Utf8.encode "4".toList),
       (["spare", "voice.json"], [0xFF])] := rfl
  simp only [hfiles, List.mem_cons, Prod.mk.injEq, List.not_mem_nil, or_false] at hmem
  rcases hmem with ⟨rfl, -⟩ | ⟨rfl, -⟩ | ⟨rfl, -⟩ | ⟨rfl, -⟩ | ⟨rfl, hbytes⟩
  · exact .inr (.rel (by decide))
  · exact .inl rfl
  · exact absurd h.named (by decide)
  · exact absurd h.named (by decide)
  · -- the last directory holds no text under this name
    cases decode?_ff.symm.trans (Utf8.decode?_eq_some_iff.mpr hbytes.symm)

end Fixture

end FlowConsole
