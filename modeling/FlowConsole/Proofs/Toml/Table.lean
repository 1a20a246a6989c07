import Mathlib.Data.List.Nodup
import FlowConsole.Proofs.Entries
import FlowConsole.Proofs.Toml.RoundTrip
/-!
What entries and headers add to the tables under construction.

The table that is open stands at the end of all that was read so far. Entries of new keys go to its
end, and a header of a new key opens another one behind it.
-/
namespace FlowConsole.Toml

namespace Items

variable {before : Items} {key : String}

theorem set_eq_append (h : before.lookup key = none) (item : Item) :
    before.set key item = before ++ [(key, item)] := by
  induction before with
  | nil => rfl
  | cons entry before ih =>
      obtain ⟨hne, hrest⟩ : key ≠ entry.1 ∧ before.lookup key = none := by
        simpa [Entries.lookup_eq_none_iff] using h
      rw [set, if_neg hne.symm, ih hrest, List.cons_append]

theorem set_append_self (h : before.lookup key = none) (old item : Item) :
    set key item (before ++ [(key, old)]) = before ++ [(key, item)] := by
  induction before with
  | nil => exact if_pos rfl
  | cons entry before ih =>
      obtain ⟨hne, hrest⟩ : key ≠ entry.1 ∧ before.lookup key = none := by
        simpa [Entries.lookup_eq_none_iff] using h
      rw [List.cons_append, set, if_neg hne.symm, ih hrest, List.cons_append]

theorem lookup_append_self (h : before.lookup key = none) (item : Item) :
    (before ++ [(key, item)]).lookup key = some item := by
  rw [List.lookup_append, h, Option.none_or, List.lookup_cons_self]

/-- Whether a table stands at the end of a path, `around` it what else there is. -/
def Opens (start : Origin) (path : List String) (origin : Origin) (around : Items → Items) : Prop :=
  ∀ change entries, modifyAt .implied (fun _ => true) change start path (around entries) =
    (change origin entries).map around

theorem opens_nil (origin : Origin) : Opens origin [] origin id := by
  intro change entries
  rw [modifyAt, Option.map_id]
  rfl

theorem Opens.cons {start inner origin : Origin} {path : List String} {around : Items → Items}
    (h : Opens inner path origin around) (hnew : before.lookup key = none) :
    Opens start (key :: path) origin fun entries =>
      before ++ [(key, .table inner (around entries))] := by
  intro change entries
  rw [modifyAt, lookup_append_self hnew]
  simp only [if_true, h change entries]
  cases change origin entries with
  | none => rfl
  | some result => exact congrArg some (set_append_self hnew _ _)

theorem Opens.addToTable {origin : Origin} {path : List String} {around : Items → Items}
    (h : Opens .header path origin around) (horigin : origin ≠ .dotted) {entries : Items}
    (hnew : entries.lookup key = none) (v : Value) :
    addToTable path [] key v (around entries) = some (around (entries ++ [(key, .value v)])) := by
  rw [Items.addToTable, h, addValue, modifyAt, addNew]
  simp [horigin, hnew, set_eq_append hnew]

theorem openTable_new {items : Items} (hnew : items.lookup key = none) :
    openTable [] key items = some (items ++ [(key, .table .header [])]) := by
  rw [openTable, modifyAt, hnew]
  exact congrArg some (set_eq_append hnew _)

/-- A header of two keys of which none is there yet. -/
theorem openTable_implied {parent : String} (hnew : before.lookup parent = none) (key : String) :
    openTable [parent] key before =
      some (before ++ [(parent, .table .implied [(key, .table .header [])])]) := by
  rw [openTable, modifyAt, hnew]
  exact congrArg some (set_eq_append hnew _)

/-- A header of two keys of which the first has a table that was opened so before. -/
theorem openTable_next {parent : String} (hparent : before.lookup parent = none) {tables : Items}
    (hnew : tables.lookup key = none) :
    openTable [parent] key (before ++ [(parent, .table .implied tables)]) =
      some (before ++ [(parent, .table .implied (tables ++ [(key, .table .header [])]))]) := by
  have hopens : Opens .header [parent] .implied _ := (opens_nil .implied).cons hparent
  rw [openTable]
  refine (hopens _ tables).trans ?_
  rw [hnew]
  exact congrArg (Option.map _) (congrArg some (set_eq_append hnew _))

end Items

theorem entriesToValues_eq_map (items : Items) :
    entriesToValues items = items.map fun e => (e.1, e.2.toValue) := by
  induction items with
  | nil => rfl
  | cons e items ih => rw [entriesToValues, ih, List.map_cons]

/-- Entries as they stand in an open table, and as they come to stand in a value. -/
def asItems (entries : List (String × Simple)) : Items :=
  entries.map fun e => (e.1, .value e.2.toValue)

@[inherit_doc asItems]
def asValues (entries : List (String × Simple)) : Table :=
  entries.map fun e => (e.1, e.2.toValue)

theorem build?_entries {path : List String} {origin : Origin} {around : Items → Items}
    (h : Items.Opens .header path origin around) (horigin : origin ≠ .dotted)
    {entries : List (String × Simple)} (hnodup : (entries.map Prod.fst).Nodup)
    (rest : List Statement) :
    build? path (around []) (entries.map (fun e => .entry [] e.1 e.2.toValue) ++ rest) =
      build? path (around (asItems entries)) rest := by
  have hgeneral : ∀ (entries seen : List (String × Simple)),
      ((seen ++ entries).map Prod.fst).Nodup →
        build? path (around (asItems seen))
          (entries.map (fun e => .entry [] e.1 e.2.toValue) ++ rest) =
            build? path (around (asItems (seen ++ entries))) rest := by
    intro entries
    induction entries with
    | nil =>
        intro seen _
        rw [List.append_nil]
        rfl
    | cons e entries ih =>
        intro seen hnodup
        have hnew : (asItems seen).lookup e.1 = none := by
          have hkeys : (asItems seen).map Prod.fst = seen.map Prod.fst := by simp [asItems]
          rw [List.map_append, List.map_cons, List.nodup_middle, List.nodup_cons] at hnodup
          rw [Entries.lookup_eq_none_iff, hkeys]
          exact fun hmem => hnodup.1 (List.mem_append_left _ hmem)
        have hseen : asItems seen ++ [(e.1, .value e.2.toValue)] = asItems (seen ++ [e]) := by
          simp [asItems]
        have hnext := ih (seen ++ [e]) (by simpa using hnodup)
        rw [List.map_cons, List.cons_append, build?, h.addToTable horigin hnew, hseen]
        simpa using hnext
  exact hgeneral entries [] hnodup

end FlowConsole.Toml
