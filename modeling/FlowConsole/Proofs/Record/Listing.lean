import FlowConsole.Proofs.Record.FlowKey
/-!
The flows of an answer, shape by shape.

An answer in an older shape wins over a newer one, but only by an array: a member of another type is
passed over as if it were not there. Of several tables those without an array of flows add nothing.
-/
namespace FlowConsole.Record

open Json

/-- Whether a table adds these flows to a listing. -/
inductive Adds (table : Value) : List Value → Prop
  | array {flows : List Value} (h : table.get? "flow" = some (.array flows)) : Adds table flows
  | nothing (h : ∀ flows, table.get? "flow" ≠ some (.array flows)) : Adds table []

/-- Whether these are the flows of an answer, in order. -/
inductive HasFlows (raw : Value) : List Value → Prop
  | config {flows : List Value} (h : raw.get? "flowConfig" = some (.array flows)) :
      HasFlows raw flows
  | ofTables {tables : List Value} {parts : List (List Value)}
      (hconfig : ∀ flows, raw.get? "flowConfig" ≠ some (.array flows))
      (htables : raw.get? "flow-node-inventory:table" = some (.array tables))
      (hparts : List.Forall₂ Adds tables parts) : HasFlows raw parts.flatten
  | bare {flows : List Value} (hconfig : ∀ flows, raw.get? "flowConfig" ≠ some (.array flows))
      (htables : ∀ tables, raw.get? "flow-node-inventory:table" ≠ some (.array tables))
      (h : raw.get? "flow" = some (.array flows)) : HasFlows raw flows
  | nothing (hconfig : ∀ flows, raw.get? "flowConfig" ≠ some (.array flows))
      (htables : ∀ tables, raw.get? "flow-node-inventory:table" ≠ some (.array tables))
      (h : ∀ flows, raw.get? "flow" ≠ some (.array flows)) : HasFlows raw []

section

variable {member : Option Value} {items : List Value}

theorem bind_array?_eq_some (h : member = some (.array items)) :
    member.bind Value.array? = some items := by
  rw [h]
  rfl

theorem bind_array?_eq_none (h : ∀ items, member ≠ some (.array items)) :
    member.bind Value.array? = none := by
  cases member with
  | none => rfl
  | some v =>
      cases v with
      | array items => exact absurd rfl (h items)
      | _ => rfl

theorem array_cases (member : Option Value) :
    (∃ items, member = some (.array items)) ∨ ∀ items, member ≠ some (.array items) := by
  by_cases h : ∃ items, member = some (.array items)
  · exact .inl h
  · exact .inr fun items hitems => h ⟨items, hitems⟩

end

theorem Adds.eq {table : Value} {flows : List Value} (h : Adds table flows) :
    flows = ((table.get? "flow").bind Value.array?).getD [] := by
  cases h with
  | array h => rw [bind_array?_eq_some h, Option.getD_some]
  | nothing h => rw [bind_array?_eq_none h, Option.getD_none]

theorem exists_adds (table : Value) : ∃ flows, Adds table flows := by
  rcases array_cases (table.get? "flow") with ⟨flows, h⟩ | h
  · exact ⟨flows, .array h⟩
  · exact ⟨[], .nothing h⟩

theorem flatten_of_adds {tables : List Value} {parts : List (List Value)}
    (h : List.Forall₂ Adds tables parts) :
    parts.flatten = tables.flatMap fun t => ((t.get? "flow").bind Value.array?).getD [] := by
  induction h with
  | nil => rfl
  | cons hpart _ ih => rw [List.flatten_cons, List.flatMap_cons, ih, hpart.eq]

theorem exists_parts (tables : List Value) : ∃ parts, List.Forall₂ Adds tables parts := by
  induction tables with
  | nil => exact ⟨[], .nil⟩
  | cons table rest ih =>
      obtain ⟨flows, hflows⟩ := exists_adds table
      obtain ⟨parts, hparts⟩ := ih
      exact ⟨flows :: parts, .cons hflows hparts⟩

section

variable {raw : Value} {flows : List Value}

theorem HasFlows.eq (h : HasFlows raw flows) : flows = listedFlows raw := by
  unfold listedFlows
  cases h with
  | config h => simp only [bind_array?_eq_some h]
  | ofTables hconfig htables hparts =>
      simp only [bind_array?_eq_none hconfig, bind_array?_eq_some htables]
      exact flatten_of_adds hparts
  | bare hconfig htables h =>
      simp only [bind_array?_eq_none hconfig, bind_array?_eq_none htables, bind_array?_eq_some h,
        Option.getD_some]
  | nothing hconfig htables h =>
      simp only [bind_array?_eq_none hconfig, bind_array?_eq_none htables, bind_array?_eq_none h,
        Option.getD_none]

theorem exists_hasFlows (raw : Value) : ∃ flows, HasFlows raw flows := by
  rcases array_cases (raw.get? "flowConfig") with ⟨flows, hconfig⟩ | hconfig
  · exact ⟨flows, .config hconfig⟩
  · rcases array_cases (raw.get? "flow-node-inventory:table") with ⟨tables, htables⟩ | htables
    · obtain ⟨parts, hparts⟩ := exists_parts tables
      exact ⟨parts.flatten, .ofTables hconfig htables hparts⟩
    · rcases array_cases (raw.get? "flow") with ⟨flows, h⟩ | h
      · exact ⟨flows, .bare hconfig htables h⟩
      · exact ⟨[], .nothing hconfig htables h⟩

theorem hasFlows_iff : HasFlows raw flows ↔ flows = listedFlows raw := by
  constructor
  · exact HasFlows.eq
  · rintro rfl
    obtain ⟨flows, h⟩ := exists_hasFlows raw
    rwa [← h.eq]

end

/-- A listing holds the answer and its flows. The entries are the keys of the flows, one for each in
order, and the keys are the entries that are there. -/
theorem Listing.ofAnswer_inOrder (node table : Nat) (raw : Value) :
    let l := Listing.ofAnswer node table raw
    (∀ flows, HasFlows raw flows ↔ flows = l.flows) ∧ l.raw = raw ∧
    l.entries.length = l.flows.length ∧
    List.Forall₂ (fun flow entry =>
      ∀ key, entry = some key ↔ FlowKey.ofListed flow node table = .ok key) l.flows l.entries ∧
    l.keys.map some = l.entries.filter Option.isSome ∧
    ∀ key ∈ l.keys, key.node = node ∧ key.table = table := by
  intro l
  refine ⟨fun flows => hasFlows_iff, rfl, ?length, ?entries, l.map_some_keys,
    fun key hkey => mem_keys_address hkey⟩
  case length => exact List.length_map _
  case entries =>
    rw [entries, List.forall₂_map_right_iff, List.forall₂_same]
    intro flow _ key
    rw [FlowKey.ofListed_eq_ok_iff]
    rfl

end FlowConsole.Record
