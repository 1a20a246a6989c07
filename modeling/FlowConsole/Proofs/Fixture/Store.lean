import Mathlib.Data.Finset.Card
import Mathlib.Data.List.Induction
import FlowConsole.Fixture.Store
import FlowConsole.Proofs.Entries
import FlowConsole.Proofs.Text.ByteOrder
/-!
The store as a map from names to texts.

Of several texts put under one name the last one stays. The entries are kept in the order of the
bytes of their names, so a store is told by the last text of each name: the order in which the names
were put in leaves no trace.
-/
namespace FlowConsole.Fixture

open Text

/-! ## One fixture more -/

namespace Store

theorem get?_insert_self (s : Store) (name text : String) :
    (s.insert name text).get? name = some text := by
  rw [get?, insert, Entries.lookup_insert_self]

theorem get?_insert_of_ne {name other : String} (h : other ≠ name) (s : Store) (text : String) :
    (s.insert name text).get? other = s.get? other := by
  rw [get?, insert, Entries.lookup_insert_of_ne h, get?]

theorem get?_eq_none_iff {s : Store} {name : String} : s.get? name = none ↔ name ∉ s.names :=
  Entries.lookup_eq_none_iff

theorem mem_names_iff {s : Store} {name : String} :
    name ∈ s.names ↔ ∃ text, s.get? name = some text := by
  rw [← Option.isSome_iff_exists, ← Option.ne_none_iff_isSome, Ne, get?_eq_none_iff, not_not]

theorem mem_names_insert {s : Store} {name text other : String} :
    other ∈ (s.insert name text).names ↔ other ∈ s.names ∨ other = name := by
  rw [mem_names_iff, mem_names_iff]
  by_cases h : other = name
  · subst h
    simp [get?_insert_self]
  · simp [get?_insert_of_ne h, h]

theorem ofList_concat (fixtures : List (String × String)) (f : String × String) :
    ofList (fixtures ++ [f]) = (ofList fixtures).insert f.1 f.2 := by
  rw [ofList, List.foldl_append]
  rfl

/-! ## The catalogue -/

theorem getElem?_catalogueFrom (i : Nat) (entries : List (String × String)) (k : Nat) :
    (catalogueFrom i entries)[k]? =
      entries[k]?.map fun f => { letter := letter (i + k), name := f.1, kind := .ofText f.2 } := by
  induction entries generalizing i k with
  | nil => rfl
  | cons entry rest ih =>
      cases k with
      | zero => rfl
      | succ k =>
          rw [catalogueFrom, List.getElem?_cons_succ, List.getElem?_cons_succ, ih, Nat.add_right_comm,
            Nat.add_assoc]

theorem getElem?_catalogue (s : Store) (i : Nat) :
    s.catalogue[i]? =
      s.entries[i]?.map fun f => { letter := letter i, name := f.1, kind := .ofText f.2 } := by
  rw [catalogue, getElem?_catalogueFrom, Nat.zero_add]

theorem map_name_catalogue (s : Store) : s.catalogue.map Entry.name = s.names := by
  refine List.ext_getElem? fun i => ?_
  rw [names, List.getElem?_map, List.getElem?_map, getElem?_catalogue]
  cases s.entries[i]? <;> rfl

theorem exists_fixture_of_catalogue {s : Store} {i : Nat} {e : Entry}
    (h : s.catalogue[i]? = some e) :
    e.letter = letter i ∧
      ∃ text, s.entries[i]? = some (e.name, text) ∧ s.get? e.name = some text ∧
        e.kind = .ofText text := by
  rw [getElem?_catalogue] at h
  obtain ⟨⟨name, text⟩, hfixture, rfl⟩ := Option.map_eq_some_iff.mp h
  have hget := s.sorted.lookup_eq_some_iff.mpr (List.mem_of_getElem? hfixture)
  exact ⟨rfl, text, hfixture, hget, rfl⟩

theorem catalogue_ofList_singleton (name text : String) :
    (Store.ofList [(name, text)]).catalogue = [⟨letter 0, name, .ofText text⟩] := rfl

end Store

theorem get?_of_mem_catalogue {s : Store} {e : Entry}
    (h : e ∈ s.catalogue) : ∃ text, s.get? e.name = some text ∧ e.kind = .ofText text := by
  obtain ⟨i, hi⟩ := List.mem_iff_getElem?.mp h
  obtain ⟨-, text, -, hget, hkind⟩ := Store.exists_fixture_of_catalogue hi
  exact ⟨text, hget, hkind⟩

/-! ## All fixtures -/

/-- Whether a text is the last that was put under a name. -/
def IsLatest (fixtures : List (String × String)) (name text : String) : Prop :=
  ∃ before after, fixtures = before ++ (name, text) :: after ∧ name ∉ after.map Prod.fst

section

variable {fixtures : List (String × String)} {f : String × String} {name text : String}

theorem not_isLatest_nil : ¬ IsLatest [] name text := by
  rintro ⟨before, after, h, -⟩
  exact absurd h.symm (by simp)

theorem isLatest_concat :
    IsLatest (fixtures ++ [f]) name text ↔
      f = (name, text) ∨ f.1 ≠ name ∧ IsLatest fixtures name text := by
  constructor
  · rintro ⟨before, after, h, hafter⟩
    rcases List.eq_nil_or_concat after with rfl | ⟨after, last, rfl⟩
    · exact .inl (List.cons.inj (List.append_inj' h rfl).2).1
    · rw [List.concat_eq_append, ← List.cons_append, ← List.append_assoc] at h
      obtain ⟨hinit, hlast⟩ := List.append_inj' h rfl
      obtain rfl := (List.cons.inj hlast).1
      rw [List.concat_eq_append, List.map_append, List.mem_append, not_or] at hafter
      refine .inr ⟨fun hname => hafter.2 ?_, before, after, hinit, hafter.1⟩
      rw [← hname]
      exact List.mem_singleton_self _
  · rintro (rfl | ⟨hname, before, after, rfl, hafter⟩)
    · exact ⟨fixtures, [], rfl, List.not_mem_nil⟩
    · refine ⟨before, after ++ [f], by rw [List.append_assoc, List.cons_append], ?_⟩
      simpa [Ne.symm hname] using hafter

theorem Store.get?_ofList_eq_some_iff :
    (ofList fixtures).get? name = some text ↔ IsLatest fixtures name text := by
  induction fixtures using List.reverseRecOn with
  | nil => exact iff_of_false nofun not_isLatest_nil
  | append_singleton fixtures f ih =>
      rw [ofList_concat]
      rw [isLatest_concat]
      by_cases hname : f.1 = name
      · subst hname
        simp [get?_insert_self, Prod.ext_iff]
      · rw [get?_insert_of_ne (Ne.symm hname), ih]
        simp [hname, Prod.ext_iff]

theorem Store.mem_names_ofList : name ∈ (ofList fixtures).names ↔ name ∈ fixtures.map Prod.fst := by
  induction fixtures using List.reverseRecOn with
  | nil => rfl
  | append_singleton fixtures f ih =>
      rw [ofList_concat, mem_names_insert, ih, List.map_append, List.mem_append, List.map_singleton,
        List.mem_singleton]

end

/-- Whether a store is the map that some fixtures make, put into it one after the other. -/
structure Store.IsMapOf (s : Store) (fixtures : List (String × String)) : Prop where
  get? : ∀ name text, s.get? name = some text ↔ IsLatest fixtures name text
  absent : ∀ name, s.get? name = none ↔ name ∉ fixtures.map Prod.fst
  names : ∀ name, name ∈ s.names ↔ name ∈ fixtures.map Prod.fst
  /-- The names ascend byte by byte, so none stands twice. -/
  ascending : s.names.Pairwise fun a b => Utf8.encode a.toList < Utf8.encode b.toList
  size : s.size = (fixtures.map Prod.fst).toFinset.card
  listed : s.catalogue.map Entry.name = s.names
  catalogue : ∀ i e, s.catalogue[i]? = some e →
    e.letter = letter i ∧ ∃ text, IsLatest fixtures e.name text ∧ e.kind = .ofText text

theorem Store.size_eq_card {s : Store} {names : List String}
    (h : ∀ name, name ∈ s.names ↔ name ∈ names) : s.size = names.toFinset.card := by
  have hsame : s.names.toFinset = names.toFinset := by
    ext name
    rw [List.mem_toFinset, List.mem_toFinset, h]
  have hcard : s.names.toFinset.card = s.names.length :=
    List.toFinset_card_of_nodup s.sorted.nodup
  rw [← hsame, hcard, Store.names, List.length_map, Store.size]

/-- A store is the map of what was put into it. Two stores are the same, with the same names,
catalogue and choices, exactly if each name got the same text last. -/
theorem Store.ofList_isMapOf (fixtures : List (String × String)) :
    (ofList fixtures).IsMapOf fixtures ∧
      ∀ fixtures', ofList fixtures' = ofList fixtures ↔
        ∀ name text, IsLatest fixtures' name text ↔ IsLatest fixtures name text := by
  refine ⟨?map, fun fixtures' => ⟨fun h name text => ?_, fun h => ?_⟩⟩
  case map =>
    constructor
    case get? => exact fun name text => get?_ofList_eq_some_iff
    case absent => exact fun name => get?_eq_none_iff.trans (not_congr mem_names_ofList)
    case names => exact fun name => mem_names_ofList
    case ascending =>
      rw [Store.names, List.pairwise_map]
      exact (ofList fixtures).sorted.imp fun h => Utf8.encode_toList_lt_iff.mpr h
    case size => exact size_eq_card fun name => mem_names_ofList
    case listed => exact map_name_catalogue _
    case catalogue =>
      intro i e he
      obtain ⟨hletter, text, -, hget, hkind⟩ := exists_fixture_of_catalogue he
      exact ⟨hletter, text, get?_ofList_eq_some_iff.mp hget, hkind⟩
  · rw [← get?_ofList_eq_some_iff, h, get?_ofList_eq_some_iff]
  · have hget : ∀ name, (ofList fixtures').get? name = (ofList fixtures).get? name := fun name =>
      Option.ext fun text => by rw [get?_ofList_eq_some_iff, h, get?_ofList_eq_some_iff]
    exact Store.ext ((ofList fixtures').sorted.eq_of_lookup_eq (ofList fixtures).sorted hget)

end FlowConsole.Fixture
