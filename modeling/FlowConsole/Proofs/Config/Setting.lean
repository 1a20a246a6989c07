import FlowConsole.Config.Setting
import FlowConsole.Proofs.Entries
/-!
What is found under a key where settings are laid over each other.
-/
namespace FlowConsole.Config.Setting

open Entries (Sorted)

/-! ## Settings of a document -/

theorem ofTomlEntries_sorted (table : Toml.Table) : Sorted (ofTomlEntries table) := by
  induction table with
  | nil => exact List.Pairwise.nil
  | cons entry rest ih =>
      rw [ofTomlEntries]
      exact ih.insert _ _

theorem lookup_ofTomlEntries (table : Toml.Table) (key : String) :
    (ofTomlEntries table).lookup key = (table.lookup key).map ofToml := by
  induction table with
  | nil => rfl
  | cons entry rest ih =>
      obtain ⟨k, v⟩ := entry
      rw [ofTomlEntries]
      by_cases h : key = k
      · subst h
        rw [Entries.lookup_insert_self, List.lookup_cons_self, Option.map_some]
      · rw [Entries.lookup_insert_of_ne h, ih, Entries.lookup_cons_of_ne h]

theorem ofTomlEntries_perm {table : Toml.Table} (h : (table.map Prod.fst).Nodup) :
    (ofTomlEntries table).Perm (table.map fun e => (e.1, ofToml e.2)) := by
  refine Entries.perm_of_lookup_eq (ofTomlEntries_sorted table).nodup ?_ fun key => ?_
  · rw [List.map_map]
    exact h
  · rw [lookup_ofTomlEntries, Entries.lookup_map]

/-! ## Settings over others -/

def overrideOption : Option Setting → Option Setting → Option Setting
  | below, none => below
  | none, some above => some above
  | some below, some above => some (below.override above)

theorem lookup_overrideEntries {below above : List (String × Setting)}
    (habove : (above.map Prod.fst).Nodup) (key : String) :
    (overrideEntries below above).lookup key =
      overrideOption (below.lookup key) (above.lookup key) := by
  induction above generalizing below with
  | nil =>
      rw [overrideEntries]
      cases below.lookup key <;> rfl
  | cons entry rest ih =>
      obtain ⟨k, s⟩ := entry
      rw [List.map_cons, List.nodup_cons] at habove
      rw [overrideEntries, ih habove.2]
      by_cases h : key = k
      · subst h
        rw [Entries.lookup_eq_none_iff.mpr habove.1, Entries.lookup_insert_self,
          List.lookup_cons_self]
        cases below.lookup key <;> rfl
      · rw [Entries.lookup_insert_of_ne h, Entries.lookup_cons_of_ne h]

theorem overrideEntries_sorted {below : List (String × Setting)} (hbelow : Sorted below)
    (above : List (String × Setting)) : Sorted (overrideEntries below above) := by
  induction above generalizing below with
  | nil => exact hbelow
  | cons entry rest ih =>
      rw [overrideEntries]
      exact ih (hbelow.insert _ _)

theorem overrideEntries_nil_perm {above : List (String × Setting)}
    (habove : (above.map Prod.fst).Nodup) : (overrideEntries [] above).Perm above := by
  have hsorted : Sorted (overrideEntries [] above) := overrideEntries_sorted List.Pairwise.nil above
  refine Entries.perm_of_lookup_eq hsorted.nodup habove fun key => ?_
  rw [lookup_overrideEntries habove]
  cases above.lookup key <;> rfl

theorem overrideEntries_singleton (below : List (String × Setting)) (key : String)
    (above : Setting) : overrideEntries below [(key, above)] =
      Entries.insert key ((below.lookup key).elim above fun old => old.override above) below := by
  rw [overrideEntries, overrideEntries]
  cases below.lookup key <;> rfl

/-! ## Order -/

/-- Whether the entries of all maps in a setting stand in order. -/
inductive IsOrdered : Setting → Prop
  | scalar (layer : Layer) (value : Scalar) : IsOrdered (.scalar layer value)
  | sequence (layer : Layer) (items : List Setting) : IsOrdered (.sequence layer items)
  | map {layer : Layer} {entries : List (String × Setting)} (hsorted : Sorted entries)
      (h : ∀ e ∈ entries, IsOrdered e.2) : IsOrdered (.map layer entries)

theorem IsOrdered.sorted {layer : Layer} {entries : List (String × Setting)}
    (h : IsOrdered (.map layer entries)) : Sorted entries := by
  cases h with
  | map hsorted h => exact hsorted

theorem IsOrdered.of_lookup {layer : Layer} {entries : List (String × Setting)}
    (h : IsOrdered (.map layer entries)) {key : String} {s : Setting}
    (hkey : entries.lookup key = some s) : IsOrdered s := by
  cases h with
  | map hsorted h => exact h _ (hsorted.lookup_eq_some_iff.mp hkey)

mutual

theorem isOrdered_ofToml : ∀ v : Toml.Value, IsOrdered (ofToml v)
  | .string _ => .scalar _ _
  | .integer _ => .scalar _ _
  | .float _ => .scalar _ _
  | .boolean _ => .scalar _ _
  | .datetime _ => .map (List.pairwise_singleton _ _) (by
      rintro e (_ | ⟨_, ⟨⟩⟩)
      exact .scalar _ _)
  | .array _ => .sequence _ _
  | .table entries => .map (ofTomlEntries_sorted entries) (isOrdered_ofTomlEntries entries)

theorem isOrdered_ofTomlEntries :
    ∀ (entries : List (String × Toml.Value)), ∀ e ∈ ofTomlEntries entries, IsOrdered e.2
  | [], e, he => by cases he
  | (k, v) :: rest, e, he => by
    rw [ofTomlEntries] at he
    rcases Entries.mem_insert he with rfl | he
    · exact isOrdered_ofToml v
    · exact isOrdered_ofTomlEntries rest e he

end

theorem IsOrdered.override {below above : Setting} (hbelow : IsOrdered below)
    (habove : IsOrdered above) : IsOrdered (below.override above) := by
  induction habove generalizing below with
  | scalar layer value => cases below <;> exact .scalar _ _
  | sequence layer items => cases below <;> exact .sequence _ _
  | @map layer entries hsorted h ih =>
      cases below with
      | scalar _ _ => exact .map hsorted h
      | sequence _ _ => exact .map hsorted h
      | map layer' below =>
          have hboth := overrideEntries_sorted hbelow.sorted entries
          refine .map hboth fun e he => ?_
          have hlookup := hboth.lookup_eq_some_iff.mpr he
          rw [lookup_overrideEntries hsorted.nodup] at hlookup
          cases hnew : entries.lookup e.1 with
          | none =>
              rw [hnew] at hlookup
              exact hbelow.of_lookup hlookup
          | some s =>
              have hs := hsorted.lookup_eq_some_iff.mp hnew
              rw [hnew] at hlookup
              cases hold : below.lookup e.1 with
              | none =>
                  rw [hold] at hlookup
                  rw [← Option.some.inj hlookup]
                  exact h _ hs
              | some old =>
                  rw [hold] at hlookup
                  rw [← Option.some.inj hlookup]
                  exact ih _ hs (hbelow.of_lookup hold)

end FlowConsole.Config.Setting
