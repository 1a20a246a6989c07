import FlowConsole.Files.Tree
import FlowConsole.Proofs.Entries
import FlowConsole.Proofs.Text.Split
import FlowConsole.Proofs.Text.Utf8
/-!
What a look-up finds after a change of the tree.

A look-up depends on the directories and links that it passes. A change that keeps those is seen at
the place that it is made, and nowhere else.
-/
namespace FlowConsole.Files

namespace Node

theorem put_cons (root : Node) (name : String) (rest : List String) (node : Node) :
    root.put (name :: rest) node = .directory (Entries.insert name
      (((root.entries.lookup name).getD (.directory [])).put rest node) root.entries) := rfl

/-- A node without what stands in it, if it is a directory. -/
def kind : Node → Node
  | .directory _ => .directory []
  | node => node

theorem at?_cons (name : String) (rest : List String) (root : Node) :
    root.at? (name :: rest) = (root.entries.lookup name).bind fun node => node.at? rest := rfl

theorem at?_append (front rest : List String) (root : Node) :
    root.at? (front ++ rest) = (root.at? front).bind fun node => node.at? rest := by
  induction front generalizing root with
  | nil => rfl
  | cons name front ih =>
      rw [List.cons_append, at?_cons, at?_cons]
      cases root.entries.lookup name with
      | none => rfl
      | some node => exact ih node

theorem at?_concat {root : Node} {here : List String} {entries : List (String × Node)}
    (h : root.at? here = some (.directory entries)) (name : String) :
    root.at? (here ++ [name]) = entries.lookup name := by
  rw [at?_append, h]
  change (entries.lookup name).bind some = _
  cases entries.lookup name <;> rfl

/-- Whether all nodes in front of the last of a chain are directories. -/
def IsWay (root : Node) (path : List String) : Prop :=
  ∀ front, front <+: path → front ≠ path → ∃ entries, root.at? front = some (.directory entries)

theorem isWay_nil (root : Node) : IsWay root [] :=
  fun _ hfront hne => absurd (List.prefix_nil.mp hfront) hne

theorem IsWay.concat {root : Node} {here : List String} (hway : IsWay root here)
    {entries : List (String × Node)} (h : root.at? here = some (.directory entries))
    (name : String) : IsWay root (here ++ [name]) := by
  intro front hfront hne
  rcases List.prefix_concat_iff.mp hfront with rfl | hfront
  · exact absurd rfl hne
  · by_cases heq : front = here
    · exact ⟨entries, heq ▸ h⟩
    · exact hway front hfront heq

theorem IsWay.of_cons {root : Node} {name : String} {rest : List String}
    (hway : IsWay root (name :: rest)) {node : Node} (hnode : root.entries.lookup name = some node) :
    IsWay node rest := by
  intro front hfront hne
  obtain ⟨entries, hentries⟩ := hway (name :: front) (List.cons_prefix_cons.mpr ⟨rfl, hfront⟩)
    (by simpa using hne)
  rw [at?_cons, hnode] at hentries
  exact ⟨entries, hentries⟩

theorem IsWay.of_at? {root : Node} {here : List String} {node : Node}
    (h : root.at? here = some node) : IsWay root here := by
  intro front ⟨rest, hrest⟩ hne
  subst hrest
  cases rest with
  | nil => exact absurd (List.append_nil _).symm hne
  | cons name rest =>
      rw [at?_append] at h
      obtain ⟨inner, hinner, hname⟩ := Option.bind_eq_some_iff.mp h
      cases inner with
      | directory entries => exact ⟨entries, hinner⟩
      | file _ | link _ =>
          rw [at?_cons] at hname
          cases hname

theorem exists_directory_of_prefix {root : Node} {here front : List String}
    {entries : List (String × Node)} (h : root.at? here = some (.directory entries))
    (hfront : front <+: here) : ∃ entries, root.at? front = some (.directory entries) := by
  by_cases heq : front = here
  · exact ⟨entries, heq ▸ h⟩
  · exact IsWay.of_at? h front hfront heq

theorem IsWay.dropLast {root : Node} {path : List String} (hway : IsWay root path) :
    IsWay root path.dropLast := by
  intro front hfront hne
  refine hway front (hfront.trans (List.dropLast_prefix path)) fun heq => hne ?_
  subst heq
  exact hfront.eq_of_length_le (by simp)

theorem at?_put_self (root : Node) (path : List String) (node : Node) :
    (root.put path node).at? path = some node := by
  induction path generalizing root with
  | nil => rfl
  | cons name rest ih =>
      rw [put_cons, at?_cons, entries, Entries.lookup_insert_self]
      exact ih _

/-- Other nodes stay, but for what stands in those that are passed. -/
theorem at?_put {root : Node} {path other : List String} (hway : IsWay root path)
    (hother : ¬ path <+: other) {old : Node} (hold : root.at? other = some old) (node : Node) :
    ∃ same, (root.put path node).at? other = some same ∧ same.kind = old.kind := by
  induction path generalizing root other with
  | nil => exact absurd List.nil_prefix hother
  | cons name rest ih =>
      obtain ⟨entries, hentries⟩ := hway [] List.nil_prefix (List.cons_ne_nil name rest).symm
      obtain rfl : root = .directory entries := Option.some.inj hentries
      rw [put_cons]
      cases other with
      | nil =>
          obtain rfl := Option.some.inj hold
          exact ⟨_, rfl, rfl⟩
      | cons first other =>
          rw [at?_cons] at hold ⊢
          by_cases hfirst : first = name
          · subst hfirst
            obtain ⟨inner, hinner, hold⟩ := Option.bind_eq_some_iff.mp hold
            rw [hinner, Node.entries, Entries.lookup_insert_self]
            exact ih (hway.of_cons hinner)
              (fun hfront => hother (List.cons_prefix_cons.mpr ⟨rfl, hfront⟩)) hold
          · refine ⟨old, ?_, rfl⟩
            rw [Node.entries, Entries.lookup_insert_of_ne hfirst]
            exact hold

/-- Whether a change has kept all directories and links. -/
def KeepsWays (root root' : Node) : Prop :=
  ∀ path node, root.at? path = some node → (∀ bytes, node ≠ .file bytes) →
    ∃ same, root'.at? path = some same ∧ same.kind = node.kind

theorem KeepsWays.directory {root root' : Node} (h : KeepsWays root root') {path : List String}
    {entries : List (String × Node)} (hpath : root.at? path = some (.directory entries)) :
    ∃ entries', root'.at? path = some (.directory entries') := by
  obtain ⟨same, hsame, hkind⟩ := h path _ hpath (by simp)
  cases same with
  | directory entries' => exact ⟨entries', hsame⟩
  | file _ | link _ => cases hkind

theorem KeepsWays.link {root root' : Node} (h : KeepsWays root root') {path : List String}
    {target : String} (hpath : root.at? path = some (.link target)) :
    root'.at? path = some (.link target) := by
  obtain ⟨same, hsame, hkind⟩ := h path _ hpath (by simp)
  cases same with
  | link target' =>
      cases hkind
      exact hsame
  | file _ | directory _ => cases hkind

theorem keepsWays_put {root : Node} {path : List String} (hway : IsWay root path)
    (hat : ∀ old, root.at? path = some old → ∃ bytes, old = .file bytes) (node : Node) :
    KeepsWays root (root.put path node) := by
  intro other old hold hnot
  refine at?_put hway ?_ hold node
  rintro ⟨rest, rfl⟩
  rw [at?_append] at hold
  obtain ⟨inner, hinner, hrest⟩ := Option.bind_eq_some_iff.mp hold
  obtain ⟨bytes, rfl⟩ := hat inner hinner
  cases rest with
  | nil => exact hnot bytes (Option.some.inj hrest).symm
  | cons name rest =>
      rw [at?_cons] at hrest
      cases hrest

end Node

namespace Tree

open Node (IsWay KeepsWays at?_concat exists_directory_of_prefix)

/-! ## Where a walk ends -/

/-- Whether a name is that of an entry, neither dots nor too long. -/
def IsName (name : String) : Prop :=
  name ≠ "." ∧ name ≠ ".." ∧ ¬ name.utf8ByteSize > longestName

def linkStart (target : String) (here : List String) : List String :=
  if Path.isAbsolute target then [] else here

def linkPath (target : String) (rest : List String) : List String :=
  Path.components target ++
    (if Path.namesDirectory target && rest.isEmpty then ["."] else []) ++ rest

/-- A walk that gets to its end, step by step. -/
inductive Leads (root : Node) (followLast : Bool) :
    Nat → List String → List String → Place → Prop
  | arrived (links : Nat) (here : List String) :
    Leads root followLast links here [] { path := here, node := root.at? here }
  | dot {links : Nat} {here rest : List String} {entries : List (String × Node)} {place : Place} :
    root.at? here = some (.directory entries) → Leads root followLast links here rest place →
      Leads root followLast links here ("." :: rest) place
  | up {links : Nat} {here rest : List String} {entries : List (String × Node)} {place : Place} :
    root.at? here = some (.directory entries) →
      Leads root followLast links here.dropLast rest place →
        Leads root followLast links here (".." :: rest) place
  | missing {here : List String} {name : String} {entries : List (String × Node)} (links : Nat) :
    root.at? here = some (.directory entries) → IsName name → entries.lookup name = none →
      Leads root followLast links here [name] { path := here ++ [name], node := none }
  | link {here : List String} {name target : String} {entries : List (String × Node)}
      (links : Nat) :
    root.at? here = some (.directory entries) → IsName name →
      entries.lookup name = some (.link target) → followLast = false →
        Leads root followLast links here [name]
          { path := here ++ [name], node := some (.link target) }
  | follow {links : Nat} {here rest : List String} {name target : String}
      {entries : List (String × Node)} {place : Place} :
    root.at? here = some (.directory entries) → IsName name →
      entries.lookup name = some (.link target) → ¬ (rest.isEmpty = true ∧ (!followLast) = true) →
        Leads root followLast links (linkStart target here) (linkPath target rest) place →
          Leads root followLast (links + 1) here (name :: rest) place
  | enter {links : Nat} {here rest : List String} {name : String} {entries : List (String × Node)}
      {node : Node} {place : Place} :
    root.at? here = some (.directory entries) → IsName name →
      entries.lookup name = some node → (∀ target, node ≠ .link target) →
        Leads root followLast links (here ++ [name]) rest place →
          Leads root followLast links here (name :: rest) place

variable {root root' : Node} {followLast : Bool} {links : Nat} {here path : List String}
  {place : Place}

theorem leads_of_walk (h : walk root followLast links here path = .ok place) :
    Leads root followLast links here path place := by
  induction links, here, path using walk.induct root followLast with
  | case1 links here =>
      rw [walk] at h
      obtain rfl := Except.ok.inj h
      exact .arrived links here
  | case2 links here rest entries hdirectory ih =>
      rw [walk, hdirectory] at h
      exact .dot hdirectory (ih h)
  | case3 links here rest entries hdirectory hne ih =>
      rw [walk, hdirectory] at h
      exact .up hdirectory (ih h)
  | case4 links here name rest entries hdirectory hdot hup hlong =>
      rw [walk, hdirectory] at h
      simp [hdot, hup, hlong] at h
  | case5 links here name rest entries hdirectory hdot hup hlong hnone hlast =>
      rw [walk, hdirectory] at h
      simp only [hdot, hup, hlong, if_false, hnone, hlast, if_true] at h
      obtain rfl := Except.ok.inj h
      obtain rfl := List.isEmpty_iff.mp hlast
      exact .missing links hdirectory ⟨hdot, hup, hlong⟩ hnone
  | case6 links here name rest entries hdirectory hdot hup hlong hnone hlast =>
      rw [walk, hdirectory] at h
      simp [hdot, hup, hlong, hnone, hlast] at h
  | case7 links here name rest entries hdirectory hdot hup hlong target hlink hlast =>
      rw [walk, hdirectory] at h
      simp only [hdot, hup, hlong, if_false, hlink, hlast, and_self, if_true] at h
      obtain rfl := Except.ok.inj h
      obtain rfl := List.isEmpty_iff.mp hlast.1
      exact .link links hdirectory ⟨hdot, hup, hlong⟩ hlink (by simpa using hlast.2)
  | case8 here name rest entries hdirectory hdot hup hlong target hlink hlast =>
      rw [walk, hdirectory] at h
      simp only [hdot, hup, hlong, if_false, hlink] at h
      rw [if_neg hlast] at h
      cases h
  | case9 here name rest entries hdirectory hdot hup hlong target hlink hlast links start extra ih =>
      rw [walk, hdirectory] at h
      simp only [hdot, hup, hlong, if_false, hlink] at h
      rw [if_neg hlast] at h
      exact .follow hdirectory ⟨hdot, hup, hlong⟩ hlink hlast (ih h)
  | case10 links here name rest entries hdirectory hdot hup hlong node hnode hlookup ih =>
      rw [walk, hdirectory] at h
      simp only [hdot, hup, hlong, if_false, hlookup] at h
      exact .enter hdirectory ⟨hdot, hup, hlong⟩ hlookup hnode (ih h)
  | case11 links here name rest node hnot hat =>
      rw [walk, hat] at h
      cases node with
      | directory entries => exact absurd rfl (hnot entries)
      | file _ | link _ => cases h
  | case12 links here name rest hnone =>
      rw [walk, hnone] at h
      cases h

theorem Leads.walk_eq (h : Leads root followLast links here path place) :
    walk root followLast links here path = .ok place := by
  induction h with
  | arrived links here => rw [walk]
  | dot hdirectory _ ih =>
      rw [walk, hdirectory]
      exact ih
  | up hdirectory _ ih =>
      rw [walk, hdirectory]
      exact ih
  | missing links hdirectory hname hnone =>
      obtain ⟨hdot, hup, hlong⟩ := hname
      rw [walk, hdirectory]
      simp [hdot, hup, hlong, hnone]
  | link links hdirectory hname hlink hlast =>
      obtain ⟨hdot, hup, hlong⟩ := hname
      rw [walk, hdirectory]
      simp [hdot, hup, hlong, hlink, hlast]
  | follow hdirectory hname hlink hlast _ ih =>
      obtain ⟨hdot, hup, hlong⟩ := hname
      rw [walk, hdirectory]
      simp only [hdot, hup, hlong, if_false, hlink]
      rw [if_neg hlast]
      exact ih
  | @enter links here rest name entries node place hdirectory hname hlookup hnode _ ih =>
      obtain ⟨hdot, hup, hlong⟩ := hname
      rw [walk, hdirectory]
      cases node with
      | link target => exact absurd rfl (hnode target)
      | file _ | directory _ =>
          simp only [hdot, hup, hlong, if_false, hlookup]
          exact ih

theorem Leads.node_eq (h : Leads root followLast links here path place) :
    place.node = root.at? place.path := by
  induction h with
  | arrived _ _ => rfl
  | missing _ hdirectory _ hnone => rw [at?_concat hdirectory, hnone]
  | link _ hdirectory _ hlink _ => rw [at?_concat hdirectory, hlink]
  | dot _ _ ih | up _ _ ih | follow _ _ _ _ _ ih | enter _ _ _ _ _ ih => exact ih

theorem Leads.directory (h : Leads root followLast links here path place) (hpath : path ≠ []) :
    ∃ entries, root.at? here = some (.directory entries) := by
  cases h with
  | arrived _ _ => exact absurd rfl hpath
  | dot hdirectory _ | up hdirectory _ | missing _ hdirectory _ _ | link _ hdirectory _ _ _
  | follow hdirectory _ _ _ _ | enter hdirectory _ _ _ _ => exact ⟨_, hdirectory⟩

theorem Leads.isWay (h : Leads root followLast links here path place) (hway : IsWay root here) :
    IsWay root place.path := by
  induction h with
  | arrived _ _ => exact hway
  | dot _ _ ih => exact ih hway
  | up _ _ ih => exact ih hway.dropLast
  | missing _ hdirectory _ _ | link _ hdirectory _ _ _ => exact hway.concat hdirectory _
  | follow _ _ _ _ _ ih =>
      apply ih
      unfold linkStart
      split
      · exact Node.isWay_nil root
      · exact hway
  | enter hdirectory _ _ _ _ ih => exact ih (hway.concat hdirectory _)

/-- A walk that follows links does not end at one, unless it starts there and goes nowhere. -/
theorem Leads.node_ne_link (h : Leads root true links here path place)
    (hhere : path ≠ [] ∨ ∀ target, root.at? here ≠ some (.link target)) (target : String) :
    place.node ≠ some (.link target) := by
  induction h with
  | arrived links here => exact (hhere.resolve_left (by simp)) target
  | missing _ _ _ _ => simp
  | link _ _ _ _ hlast => cases hlast
  | dot hdirectory _ ih => exact ih (.inr (by simp [hdirectory]))
  | up hdirectory _ ih =>
      obtain ⟨entries, habove⟩ := exists_directory_of_prefix hdirectory (List.dropLast_prefix _)
      exact ih (.inr (by simp [habove]))
  | @follow links here rest name next entries place hdirectory _ _ _ _ ih =>
      have hstart : linkStart next here <+: here := by
        unfold linkStart
        split
        · exact List.nil_prefix
        · exact List.prefix_rfl
      obtain ⟨entries, hfrom⟩ := exists_directory_of_prefix hdirectory hstart
      exact ih (.inr (by simp [hfrom]))
  | @enter links here rest name entries node place hdirectory _ hlookup hnode _ ih =>
      refine ih (.inr fun next hnext => hnode next ?_)
      rw [at?_concat hdirectory, hlookup] at hnext
      exact Option.some.inj hnext

/-- A walk that follows links ends at the same place where directories and links were kept. -/
theorem Leads.of_keepsWays (h : Leads root true links here path place)
    (hways : KeepsWays root root') {node : Node} (hend : root'.at? place.path = some node)
    (hnode : ∀ target, node ≠ .link target) :
    Leads root' true links here path { path := place.path, node := some node } := by
  induction h with
  | arrived links here =>
      rw [← hend]
      exact .arrived links here
  | dot hdirectory _ ih =>
      obtain ⟨entries', hdirectory'⟩ := hways.directory hdirectory
      exact .dot hdirectory' (ih hend)
  | up hdirectory _ ih =>
      obtain ⟨entries', hdirectory'⟩ := hways.directory hdirectory
      exact .up hdirectory' (ih hend)
  | @missing here name entries links hdirectory hname hnone =>
      obtain ⟨entries', hdirectory'⟩ := hways.directory hdirectory
      refine .enter hdirectory' hname ((at?_concat hdirectory' name).symm.trans hend) hnode ?_
      rw [← hend]
      exact .arrived links _
  | link _ _ _ _ hlast => cases hlast
  | @follow links here rest name target entries place hdirectory hname hlink hlast _ ih =>
      obtain ⟨entries', hdirectory'⟩ := hways.directory hdirectory
      have hlink' := hways.link ((at?_concat hdirectory name).trans hlink)
      rw [at?_concat hdirectory'] at hlink'
      exact .follow hdirectory' hname hlink' hlast (ih hend)
  | @enter links here rest name entries old place hdirectory hname hlookup hold hrest ih =>
      obtain ⟨entries', hdirectory'⟩ := hways.directory hdirectory
      have hat := (at?_concat hdirectory name).trans hlookup
      cases old with
      | link target => exact absurd rfl (hold target)
      | directory inner =>
          obtain ⟨inner', hinner'⟩ := hways.directory hat
          rw [at?_concat hdirectory'] at hinner'
          exact .enter hdirectory' hname hinner' (by simp) (ih hend)
      | file bytes =>
          -- behind a file there is nothing to walk, so the place is that of the file
          cases rest with
          | nil =>
              cases hrest
              exact .enter hdirectory' hname ((at?_concat hdirectory' name).symm.trans hend) hnode
                (ih hend)
          | cons next rest =>
              obtain ⟨inner, hinner⟩ := hrest.directory (List.cons_ne_nil next rest)
              rw [hat] at hinner
              cases hinner

/-! ## Looking a path up -/

def start (t : Tree) (path : String) : List String :=
  if Path.isAbsolute path then [] else t.current

structure Finds (t : Tree) (followLast : Bool) (path : String) (place : Place) : Prop where
  nonempty : path.isEmpty = false
  withoutNul : '\x00' ∉ path.toList
  leads : Leads t.root (followLast || Path.namesDirectory path) linkLimit (t.start path)
    (Path.components path) place
  fits : Path.namesDirectory path = true → ∀ node, place.node = some node → node.isDirectory

theorem place_eq_ok_iff {t : Tree} {path : String} :
    t.place followLast path = .ok place ↔ t.Finds followLast path place := by
  constructor
  · intro h
    unfold Tree.place at h
    split at h
    · cases h
    · rename_i hempty
      split at h
      · cases h
      · rename_i hnul
        dsimp only at h
        split at h
        · cases h
        · rename_i found hwalk
          have hleads := leads_of_walk hwalk
          split at h
          · rename_i hdirectory
            split at h
            · rename_i entries hnode
              obtain rfl := Except.ok.inj h
              refine ⟨by simpa using hempty, hnul, hleads, fun _ node hsome => ?_⟩
              obtain rfl := Option.some.inj (hnode.symm.trans hsome)
              rfl
            · cases h
            · rename_i hnode
              obtain rfl := Except.ok.inj h
              refine ⟨by simpa using hempty, hnul, hleads, fun _ node hsome => ?_⟩
              cases hnode.symm.trans hsome
          · rename_i hdirectory
            obtain rfl := Except.ok.inj h
            exact ⟨by simpa using hempty, hnul, hleads, fun h => absurd h hdirectory⟩
  · rintro ⟨hempty, hnul, hleads, hfits⟩
    have hwalk := hleads.walk_eq
    unfold start at hwalk
    unfold Tree.place
    rw [hempty, if_neg (by simp), if_neg hnul]
    dsimp only
    rw [hwalk]
    dsimp only
    cases hdirectory : Path.namesDirectory path with
    | false => rfl
    | true =>
        cases hnode : place.node with
        | none => rfl
        | some node =>
            have hkind := hfits hdirectory node hnode
            cases node with
            | directory entries => rfl
            | file _ | link _ => cases hkind

theorem components_ne_nil {path : String} (hempty : path.isEmpty = false)
    (hrelative : Path.isAbsolute path = false) : Path.components path ≠ [] := by
  have hne : path.toList ≠ [] := by simpa using hempty
  obtain ⟨c, rest, hpath⟩ := List.exists_cons_of_ne_nil hne
  have hc : (c == '/') = false := by
    simpa [Path.isAbsolute, hpath] using hrelative
  obtain ⟨part, hpart, hmem⟩ := Text.exists_mem_splitWhere (s := path.toList) (p := (· == '/'))
    (c := c) (by simp [hpath]) hc
  have hkept : part ∈ (Text.splitOn '/' path.toList).filter fun part => !part.isEmpty := by
    rw [List.mem_filter]
    exact ⟨hpart, by simpa using List.ne_nil_of_mem hmem⟩
  exact List.ne_nil_of_mem (List.mem_map_of_mem hkept)

theorem namesDirectory_of_components {path : String} (h : Path.components path = []) :
    Path.namesDirectory path = true := by
  have hempty : ∀ part ∈ Text.splitOn '/' path.toList, part = [] := by
    simpa [Path.components] using h
  unfold Path.namesDirectory
  cases hlast : (Text.splitOn '/' path.toList).getLast? with
  | none => rfl
  | some last =>
      rw [hempty last (List.mem_of_getLast? hlast)]
      rfl

namespace Finds

variable {t : Tree} {path : String}

theorem isWay (h : t.Finds followLast path place) : IsWay t.root place.path := by
  refine h.leads.isWay ?_
  cases habsolute : Path.isAbsolute path with
  | true =>
      rw [start, habsolute]
      exact Node.isWay_nil _
  | false =>
      obtain ⟨entries, hentries⟩ := h.leads.directory (components_ne_nil h.nonempty habsolute)
      exact IsWay.of_at? hentries

theorem node_ne_link (h : t.Finds true path place) (target : String) :
    place.node ≠ some (.link target) := by
  by_cases hpath : Path.components path = []
  · intro hnode
    cases h.fits (namesDirectory_of_components hpath) _ hnode
  · exact h.leads.node_ne_link (.inl hpath) target

theorem of_keepsWays (h : t.Finds true path place) (hways : KeepsWays t.root root')
    (hordered : root'.IsOrdered) {bytes : List UInt8}
    (hend : root'.at? place.path = some (.file bytes))
    (hdirectory : Path.namesDirectory path = false) :
    Finds { t with root := root', ordered := hordered } true path
      { path := place.path, node := some (.file bytes) } := by
  refine ⟨h.nonempty, h.withoutNul, ?_, fun h => ?_⟩
  · exact h.leads.of_keepsWays hways hend (by simp)
  · rw [hdirectory] at h
    cases h

end Finds

/-! ## Reading and writing -/

variable {t t' : Tree} {path : String} {bytes : List UInt8}

theorem find_of_finds {node : Node} (h : t.Finds true path { path := here, node := some node }) :
    t.find path = .ok node := by
  unfold find
  rw [place_eq_ok_iff.mpr h]
  rfl

theorem find_eq_ok_iff {node : Node} :
    t.find path = .ok node ↔ ∃ here, t.Finds true path { path := here, node := some node } := by
  refine ⟨fun h => ?_, fun ⟨_, h⟩ => find_of_finds h⟩
  unfold find at h
  cases hplace : t.place true path with
  | error e =>
      rw [hplace] at h
      cases h
  | ok place =>
      rw [hplace] at h
      obtain ⟨here, found⟩ := place
      cases found with
      | none => cases h
      | some found =>
          obtain rfl := Except.ok.inj h
          exact ⟨here, place_eq_ok_iff.mp hplace⟩

theorem read_eq_ok_iff :
    t.read path = .ok bytes ↔
      ∃ here, t.Finds true path { path := here, node := some (.file bytes) } := by
  rw [← find_eq_ok_iff]
  unfold read
  cases t.find path with
  | error e => exact ⟨nofun, nofun⟩
  | ok node => cases node <;> simp [bind, Except.bind]

theorem isFile_iff : t.isFile path = true ↔ ∃ bytes, t.find path = .ok (.file bytes) := by
  unfold isFile
  constructor
  · intro h
    split at h
    · exact ⟨_, ‹_›⟩
    · cases h
  · rintro ⟨bytes, h⟩
    rw [h]

theorem isFile_eq_false_iff :
    t.isFile path = false ↔ ∀ bytes, t.find path ≠ .ok (.file bytes) := by
  rw [← Bool.not_eq_true, isFile_iff, not_exists]

theorem isFile_of_read (h : t.read path = .ok bytes) : t.isFile path = true := by
  obtain ⟨here, hfinds⟩ := read_eq_ok_iff.mp h
  exact isFile_iff.mpr ⟨bytes, find_of_finds hfinds⟩

theorem readText_of_find (h : t.find path = .ok (.file bytes)) :
    t.readText path =
      match Text.Utf8.decode? bytes with
      | some text => .ok text
      | none => .error .notText := by
  unfold readText read
  rw [h]
  rfl

theorem readText_of_read {text : String} (h : t.read path = .ok (Text.Utf8.encode text.toList)) :
    t.readText path = .ok text := by
  obtain ⟨here, hfinds⟩ := read_eq_ok_iff.mp h
  rw [readText_of_find (find_of_finds hfinds), Text.Utf8.decode?_encode, String.ofList_toList]

theorem exists_place_of_write (h : t.write path bytes = .ok t') :
    ∃ place, t.Finds true path place ∧ (∀ old, place.node = some old → ∃ bytes, old = .file bytes) ∧
      Path.namesDirectory path = false ∧
        t' = t.put place.path (.file bytes) := by
  unfold write at h
  cases hplace : t.place true path with
  | error e =>
      rw [hplace] at h
      cases h
  | ok place =>
      have hfinds := place_eq_ok_iff.mp hplace
      refine ⟨place, hfinds, ?_⟩
      rw [hplace] at h
      simp only [bind, Except.bind] at h
      cases hnode : place.node with
      | none =>
          simp only [hnode] at h
          split at h
          · cases h
          · rename_i hdirectory
            obtain rfl := Except.ok.inj h
            exact ⟨by simp, by simpa using hdirectory, rfl⟩
      | some node =>
          cases node with
          | directory entries => simp [hnode] at h
          | link target => exact absurd hnode (hfinds.node_ne_link target)
          | file old =>
              simp only [hnode] at h
              obtain rfl := Except.ok.inj h
              refine ⟨by simp, ?_, rfl⟩
              cases hdirectory : Path.namesDirectory path with
              | false => rfl
              | true => cases hfinds.fits hdirectory _ hnode

theorem read_write (h : t.write path bytes = .ok t') : t'.read path = .ok bytes := by
  obtain ⟨place, hfinds, hold, hdirectory, rfl⟩ := exists_place_of_write h
  rw [hfinds.leads.node_eq] at hold
  have hways := Node.keepsWays_put hfinds.isWay hold (.file bytes)
  exact read_eq_ok_iff.mpr
    ⟨place.path, hfinds.of_keepsWays hways _ (Node.at?_put_self _ _ _) hdirectory⟩

theorem exists_place_of_makeDirectory {directory : String}
    (h : t.makeDirectory directory = .ok t') :
    ∃ place, t.Finds false directory place ∧ t.root.at? place.path = none ∧
      t' = t.put place.path Node.isOrdered_empty := by
  unfold makeDirectory at h
  split at h
  · cases h
  · rename_i place hplace
    have hfinds := place_eq_ok_iff.mp hplace
    split at h
    · cases h
    · rename_i hnode
      obtain rfl := Except.ok.inj h
      exact ⟨place, hfinds, hfinds.leads.node_eq.symm.trans hnode, rfl⟩

theorem read_makeDirectory {directory : String} (h : t.makeDirectory directory = .ok t')
    (hread : t.read path = .ok bytes) : t'.read path = .ok bytes := by
  obtain ⟨place, hmade, hnone, rfl⟩ := exists_place_of_makeDirectory h
  obtain ⟨here, hfinds⟩ := read_eq_ok_iff.mp hread
  have hat : t.root.at? here = some (.file bytes) := hfinds.leads.node_eq.symm
  have hapart : ¬ place.path <+: here := by
    rintro ⟨rest, rfl⟩
    rw [Node.at?_append, hnone] at hat
    cases hat
  obtain ⟨same, hsame, hkind⟩ := Node.at?_put hmade.isWay hapart hat (.directory [])
  obtain rfl : same = .file bytes := by
    cases same with
    | file _ | link _ => exact hkind
    | directory _ => cases hkind
  have hways := Node.keepsWays_put hmade.isWay (fun old hold => by cases hnone.symm.trans hold)
    (.directory [])
  have hdirectory : Path.namesDirectory path = false := by
    cases hdirectory : Path.namesDirectory path with
    | false => rfl
    | true => cases hfinds.fits hdirectory _ rfl
  exact read_eq_ok_iff.mpr ⟨here, hfinds.of_keepsWays hways _ hsame hdirectory⟩

def ensureDirectory (t : Tree) (directory : String) : Except Error Tree :=
  match t.makeDirectory directory with
  | .ok t => .ok t
  | .error e => if t.isDirectory directory then .ok t else .error e

theorem read_ensureDirectory {directory : String} (h : t.ensureDirectory directory = .ok t')
    (hread : t.read path = .ok bytes) : t'.read path = .ok bytes := by
  unfold ensureDirectory at h
  split at h
  · rename_i made hmade
    obtain rfl := Except.ok.inj h
    exact read_makeDirectory hmade hread
  · split at h
    · obtain rfl := Except.ok.inj h
      exact hread
    · cases h

theorem read_makeDirectoriesFrom {fuel : Nat} {directory : String}
    (h : makeDirectoriesFrom fuel t directory = .ok t') (hread : t.read path = .ok bytes) :
    t'.read path = .ok bytes := by
  induction fuel generalizing t t' directory with
  | zero => cases h
  | succ fuel ih =>
      rw [makeDirectoriesFrom] at h
      split at h
      · obtain rfl := Except.ok.inj h
        exact hread
      · split at h
        · rename_i made hmade
          obtain rfl := Except.ok.inj h
          exact read_makeDirectory hmade hread
        · split at h
          · cases h
          · rename_i above _
            cases habove : makeDirectoriesFrom fuel t above with
            | error e =>
                rw [habove] at h
                cases h
            | ok t₁ =>
                rw [habove] at h
                exact read_ensureDirectory h (ih habove hread)
        · split at h
          · obtain rfl := Except.ok.inj h
            exact hread
          · cases h

theorem read_makeDirectories {directory : String} (h : t.makeDirectories directory = .ok t')
    (hread : t.read path = .ok bytes) : t'.read path = .ok bytes :=
  read_makeDirectoriesFrom h hread

end Tree

end FlowConsole.Files
