import FlowConsole.Proofs.Entries
import FlowConsole.Proofs.Json.Canonical
/-!
Members of objects: in what order they stand, and what is found under a key.
-/
namespace FlowConsole.Json

namespace Value

/-! ## What is found under a key -/

theorem lookup_foldl_insertMember {key : String} {members : List (String × Value)}
    (h : key ∉ members.map Prod.fst) (seen : List (String × Value)) :
    (members.foldl (fun acc m => Entries.insert m.1 m.2 acc) seen).lookup key = seen.lookup key := by
  induction members generalizing seen with
  | nil => rfl
  | cons m rest ih =>
      rw [List.map_cons, List.mem_cons, not_or] at h
      rw [List.foldl_cons, ih h.2, Entries.lookup_insert_of_ne h.1]

theorem lookup_foldl_insertMember_of_mem {key : String} {value : Value}
    {members : List (String × Value)} (hkeys : (members.map Prod.fst).Nodup)
    (h : (key, value) ∈ members) (seen : List (String × Value)) :
    (members.foldl (fun acc m => Entries.insert m.1 m.2 acc) seen).lookup key = some value := by
  induction members generalizing seen with
  | nil => simp at h
  | cons m rest ih =>
      rw [List.map_cons, List.nodup_cons] at hkeys
      rw [List.foldl_cons]
      rcases List.mem_cons.mp h with rfl | h
      · rw [lookup_foldl_insertMember hkeys.1, Entries.lookup_insert_self]
      · exact ih hkeys.2 h _

theorem get?_canonical {members : List (String × Value)} (hkeys : (members.map Prod.fst).Nodup)
    {key : String} {value : Value} (h : (key, value) ∈ members) :
    (object members).canonical.get? key = some value.canonical := by
  have hkeys' : ((members.map fun m => (m.1, m.2.canonical)).map Prod.fst).Nodup := by
    rw [List.map_map]
    exact hkeys
  rw [canonical_object]
  exact lookup_foldl_insertMember_of_mem hkeys' (List.mem_map.mpr ⟨(key, value), h, rfl⟩) []

/-! ## The order of members -/

theorem isOrdered_object_iff {members : List (String × Value)} :
    (object members).isOrdered = true ↔
      Entries.Sorted members ∧ ∀ m ∈ members, m.2.isOrdered = true := by
  unfold isOrdered
  rw [all_object_iff, decide_eq_true_iff]
  rfl

theorem isOrdered_array_iff {items : List Value} :
    (array items).isOrdered = true ↔ ∀ v ∈ items, v.isOrdered = true := by
  unfold isOrdered
  rw [all_array_iff]
  exact and_iff_right rfl

theorem insertMember_of_lt_forall {key : String} {value : Value} {members : List (String × Value)}
    (h : ∀ m ∈ members, key < m.1) : Entries.insert key value members = (key, value) :: members := by
  cases members with
  | nil => rfl
  | cons m rest => rw [Entries.insert, if_pos (h m List.mem_cons_self)]

theorem sortedMembers_eq_self {members : List (String × Value)} (h : Entries.Sorted members)
    (hvalues : ∀ m ∈ members, m.2.sorted = m.2) : sortedMembers members = members := by
  induction members with
  | nil => rfl
  | cons m rest ih =>
      obtain ⟨hfirst, hrest⟩ := List.pairwise_cons.mp h
      rw [List.forall_mem_cons] at hvalues
      rw [sortedMembers, hvalues.1, ih hrest hvalues.2, insertMember_of_lt_forall hfirst]

theorem sorted_array (items : List Value) : (array items).sorted = .array (items.map sorted) := by
  have hitems : sortedItems items = items.map sorted := by
    induction items with
    | nil => rfl
    | cons v rest ih => rw [sortedItems, ih, List.map_cons]
  rw [sorted, hitems]

theorem sorted_eq_self {v : Value} (h : v.isOrdered = true) : v.sorted = v := by
  induction v using induction with
  | null => rfl
  | bool b => rfl
  | number n => rfl
  | string s => rfl
  | array items ih =>
      rw [isOrdered_array_iff] at h
      rw [sorted_array, List.map_congr_left fun v hv => ih v hv (h v hv), List.map_id']
  | object members ih =>
      obtain ⟨hsorted, hvalues⟩ := isOrdered_object_iff.mp h
      rw [sorted, sortedMembers_eq_self hsorted fun m hm => ih m hm (hvalues m hm)]

end Value

end FlowConsole.Json
