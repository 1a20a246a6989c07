import FlowConsole.Entries
import Mathlib.Data.List.Nodup
import Mathlib.Data.String.Basic
/-!
Entries under keys: what is found under a key once an entry was put in its place.
-/
namespace FlowConsole.Entries

variable {α : Type}

theorem lookup_cons_of_ne {key other : String} (h : other ≠ key) (value : α)
    (rest : List (String × α)) : ((key, value) :: rest).lookup other = rest.lookup other := by
  rw [List.lookup_cons, beq_false_of_ne h]

theorem lookup_eq_none_iff {key : String} {entries : List (String × α)} :
    entries.lookup key = none ↔ key ∉ entries.map Prod.fst := by
  induction entries with
  | nil => simp
  | cons entry rest ih =>
      obtain ⟨k, value⟩ := entry
      by_cases h : key = k
      · simp [h]
      · rw [lookup_cons_of_ne h, ih, List.map_cons, List.mem_cons, not_or]
        exact (and_iff_right h).symm

@[simp] theorem lookup_insert_self (key : String) (value : α) (entries : List (String × α)) :
    (insert key value entries).lookup key = some value := by
  induction entries with
  | nil => exact List.lookup_cons_self
  | cons entry rest ih =>
      rw [insert]
      split
      · exact List.lookup_cons_self
      · split
        · exact List.lookup_cons_self
        · rename_i hne
          rw [lookup_cons_of_ne hne, ih]

theorem lookup_insert_of_ne {key other : String} (h : other ≠ key) (value : α)
    (entries : List (String × α)) : (insert key value entries).lookup other = entries.lookup other := by
  induction entries with
  | nil => exact lookup_cons_of_ne h value []
  | cons entry rest ih =>
      rw [insert]
      split
      · exact lookup_cons_of_ne h _ _
      · split
        · rename_i heq
          subst heq
          rw [lookup_cons_of_ne h, lookup_cons_of_ne h]
        · rw [List.lookup_cons, List.lookup_cons, ih]

theorem Sorted.nodup {entries : List (String × α)} (h : Sorted entries) :
    (entries.map Prod.fst).Nodup := by
  rw [List.Nodup, List.pairwise_map]
  refine h.imp ?_
  intro a b hlt
  exact ne_of_lt hlt

theorem lookup_eq_some_iff {key : String} {value : α} {entries : List (String × α)}
    (hnodup : (entries.map Prod.fst).Nodup) :
    entries.lookup key = some value ↔ (key, value) ∈ entries := by
  induction entries with
  | nil => simp
  | cons entry rest ih =>
      obtain ⟨k, old⟩ := entry
      rw [List.map_cons, List.nodup_cons] at hnodup
      by_cases h : key = k
      · subst h
        have hnew : (key, value) ∉ rest := fun hmem =>
          hnodup.1 (List.mem_map.mpr ⟨_, hmem, rfl⟩)
        simp [hnew, eq_comm]
      · rw [lookup_cons_of_ne h, ih hnodup.2]
        simp [h]

theorem Sorted.lookup_eq_some_iff {key : String} {value : α} {entries : List (String × α)}
    (h : Sorted entries) : entries.lookup key = some value ↔ (key, value) ∈ entries :=
  Entries.lookup_eq_some_iff h.nodup

theorem lookup_eq_of_perm {entries entries' : List (String × α)}
    (hnodup : (entries.map Prod.fst).Nodup) (h : entries'.Perm entries) (key : String) :
    entries'.lookup key = entries.lookup key := by
  have hnodup' : (entries'.map Prod.fst).Nodup := (h.map Prod.fst).nodup_iff.mpr hnodup
  refine Option.ext fun value => ?_
  rw [lookup_eq_some_iff hnodup, lookup_eq_some_iff hnodup', h.mem_iff]

theorem perm_of_lookup_eq {entries entries' : List (String × α)}
    (hnodup : (entries.map Prod.fst).Nodup) (hnodup' : (entries'.map Prod.fst).Nodup)
    (h : ∀ key, entries.lookup key = entries'.lookup key) : entries.Perm entries' := by
  rw [List.perm_ext_iff_of_nodup (List.Nodup.of_map _ hnodup) (List.Nodup.of_map _ hnodup')]
  rintro ⟨key, value⟩
  rw [← lookup_eq_some_iff hnodup, h key, lookup_eq_some_iff hnodup']

theorem Sorted.eq_of_lookup_eq {entries entries' : List (String × α)} (h : Sorted entries)
    (h' : Sorted entries') (hlookup : ∀ key, entries.lookup key = entries'.lookup key) :
    entries = entries' := by
  refine (perm_of_lookup_eq h.nodup h'.nodup hlookup).eq_of_pairwise ?_ h h'
  intro a b _ _ hlt hgt
  exact absurd (String.lt_trans hlt hgt) (lt_irrefl a.1)

theorem Sorted.insert_eq_self {entries : List (String × α)} (h : Sorted entries) {key : String}
    {value : α} (hkey : entries.lookup key = some value) :
    Entries.insert key value entries = entries := by
  refine (h.insert key value).eq_of_lookup_eq h fun other => ?_
  by_cases heq : other = key
  · rw [heq, lookup_insert_self, hkey]
  · exact lookup_insert_of_ne heq value entries

theorem lookup_filter (p : String → Bool) (key : String) (entries : List (String × α)) :
    (entries.filter fun e => p e.1).lookup key = if p key then entries.lookup key else none := by
  induction entries with
  | nil => simp
  | cons entry rest ih =>
      obtain ⟨k, value⟩ := entry
      rw [List.filter_cons]
      by_cases h : key = k
      · subst h
        by_cases hp : p key = true
        · simp [hp]
        · rw [if_neg hp, ih, if_neg hp, if_neg hp]
      · rw [lookup_cons_of_ne h]
        split
        · rw [lookup_cons_of_ne h, ih]
        · exact ih

theorem lookup_map {β : Type} (f : α → β) (key : String) (entries : List (String × α)) :
    (entries.map fun e => (e.1, f e.2)).lookup key = (entries.lookup key).map f := by
  induction entries with
  | nil => rfl
  | cons entry rest ih =>
      obtain ⟨k, value⟩ := entry
      by_cases h : key = k
      · simp [h]
      · rw [List.map_cons, lookup_cons_of_ne h, lookup_cons_of_ne h, ih]

theorem exists_perm_of_perm_map {β : Type} {f : α → β} {l : List β} {m : List α}
    (h : l.Perm (m.map f)) : ∃ m' : List α, m'.Perm m ∧ m'.map f = l := by
  generalize hm : m.map f = l' at h
  induction h generalizing m with
  | nil => exact ⟨[], by simp_all, rfl⟩
  | cons b _ ih =>
      obtain ⟨a, m, rfl, rfl, hrest⟩ := List.map_eq_cons_iff.mp hm
      obtain ⟨m', hperm, rfl⟩ := ih hrest
      exact ⟨a :: m', hperm.cons a, rfl⟩
  | swap b b' l =>
      obtain ⟨a, m, rfl, rfl, hrest⟩ := List.map_eq_cons_iff.mp hm
      obtain ⟨a', m, rfl, rfl, rfl⟩ := List.map_eq_cons_iff.mp hrest
      exact ⟨a' :: a :: m, List.Perm.swap a a' m, rfl⟩
  | trans _ _ ih ih' =>
      obtain ⟨m', hperm, hm'⟩ := ih' hm
      obtain ⟨m'', hperm', rfl⟩ := ih hm'
      exact ⟨m'', hperm'.trans hperm, rfl⟩

end FlowConsole.Entries
