import FlowConsole.Json.Value
/-!
The shape of values: what stands in them, how deep they nest, and what is left of them once their
objects list each key once and in order.
-/
namespace FlowConsole.Json

def Number.isInteger64 : Number → Bool
  | .integer n => -0x8000000000000000 ≤ n && n < 0x10000000000000000
  | .float _ => false

/-- A number that is written as an integer of 64 bits. Minus zero is one, and is read as a float, so
that its sign is kept. -/
def Number.isWhole : Number → Bool
  | .integer n => (Number.integer n).isInteger64
  | .float x => x == .zero true

namespace Value

mutual

/-- How many brackets are open at once where a value nests deepest. -/
def nesting : Value → Nat
  | .array items => nestingItems items + 1
  | .object members => nestingMembers members + 1
  | _ => 0

@[inherit_doc nesting]
def nestingItems : List Value → Nat
  | [] => 0
  | v :: rest => max v.nesting (nestingItems rest)

@[inherit_doc nesting]
def nestingMembers : List (String × Value) → Nat
  | [] => 0
  | (_, v) :: rest => max v.nesting (nestingMembers rest)

end

mutual

def all (p : Value → Bool) : Value → Bool
  | .array items => p (.array items) && allItems p items
  | .object members => p (.object members) && allMembers p members
  | v => p v

@[inherit_doc all]
def allItems (p : Value → Bool) : List Value → Bool
  | [] => true
  | v :: rest => v.all p && allItems p rest

@[inherit_doc all]
def allMembers (p : Value → Bool) : List (String × Value) → Bool
  | [] => true
  | (_, v) :: rest => v.all p && allMembers p rest

end

mutual

/-- The value with every object's members by ascending key, the last of several under one key. -/
def canonical : Value → Value
  | .array items => .array (canonicalItems items)
  | .object members => ofMembers (canonicalMembers members)
  | v => v

@[inherit_doc canonical]
def canonicalItems : List Value → List Value
  | [] => []
  | v :: rest => v.canonical :: canonicalItems rest

@[inherit_doc canonical]
def canonicalMembers : List (String × Value) → List (String × Value)
  | [] => []
  | (k, v) :: rest => (k, v.canonical) :: canonicalMembers rest

end

def isIntegral (v : Value) : Bool :=
  v.all fun
    | .number n => n.isInteger64
    | _ => true

def isWhole (v : Value) : Bool :=
  v.all fun
    | .number n => n.isWhole
    | _ => true

/-- Whether the objects of a value are maps: each lists its members by strictly ascending key. -/
def isOrdered (v : Value) : Bool :=
  v.all fun
    | .object members => decide (members.Pairwise fun a b => a.1 < b.1)
    | _ => true

@[elab_as_elim]
theorem induction {motive : Value → Prop} (null : motive .null) (bool : ∀ b, motive (.bool b))
    (number : ∀ n, motive (.number n)) (string : ∀ s, motive (.string s))
    (array : ∀ items, (∀ v ∈ items, motive v) → motive (.array items))
    (object : ∀ members, (∀ m ∈ members, motive m.2) → motive (.object members)) (v : Value) :
    motive v := by
  refine @Value.rec motive (fun items => ∀ v ∈ items, motive v)
    (fun members => ∀ m ∈ members, motive m.2) (fun m => motive m.2)
    null bool number string array object ?_ ?_ ?_ ?_ ?_ v
  · simp
  · intro head tail hhead htail
    exact List.forall_mem_cons.mpr ⟨hhead, htail⟩
  · simp
  · intro head tail hhead htail
    exact List.forall_mem_cons.mpr ⟨hhead, htail⟩
  · intro key value hvalue
    exact hvalue

/-! ## Item by item -/

theorem nestingItems_le_iff {items : List Value} {n : Nat} :
    nestingItems items ≤ n ↔ ∀ v ∈ items, v.nesting ≤ n := by
  induction items with
  | nil => simp [nestingItems]
  | cons v rest ih => rw [nestingItems, Nat.max_le, ih, List.forall_mem_cons]

theorem nestingMembers_le_iff {members : List (String × Value)} {n : Nat} :
    nestingMembers members ≤ n ↔ ∀ m ∈ members, m.2.nesting ≤ n := by
  induction members with
  | nil => simp [nestingMembers]
  | cons m rest ih => rw [nestingMembers, Nat.max_le, ih, List.forall_mem_cons]

theorem canonical_array (items : List Value) :
    (array items).canonical = .array (items.map canonical) := by
  have hitems : canonicalItems items = items.map canonical := by
    induction items with
    | nil => rfl
    | cons v rest ih => rw [canonicalItems, ih, List.map_cons]
  rw [canonical, hitems]

theorem canonical_object (members : List (String × Value)) :
    (object members).canonical = ofMembers (members.map fun m => (m.1, m.2.canonical)) := by
  have hmembers : canonicalMembers members = members.map fun m => (m.1, m.2.canonical) := by
    induction members with
    | nil => rfl
    | cons m rest ih => rw [canonicalMembers, ih, List.map_cons]
  rw [canonical, hmembers]

section

variable {p : Value → Bool}

theorem all_array_iff {items : List Value} :
    (array items).all p = true ↔ p (array items) = true ∧ ∀ v ∈ items, v.all p = true := by
  have hitems : allItems p items = true ↔ ∀ v ∈ items, v.all p = true := by
    induction items with
    | nil => simp [allItems]
    | cons v rest ih => rw [allItems, Bool.and_eq_true, ih, List.forall_mem_cons]
  rw [all, Bool.and_eq_true, hitems]

theorem all_object_iff {members : List (String × Value)} :
    (object members).all p = true ↔ p (object members) = true ∧ ∀ m ∈ members, m.2.all p = true := by
  have hmembers : allMembers p members = true ↔ ∀ m ∈ members, m.2.all p = true := by
    induction members with
    | nil => simp [allMembers]
    | cons m rest ih => rw [allMembers, Bool.and_eq_true, ih, List.forall_mem_cons]
  rw [all, Bool.and_eq_true, hmembers]

theorem all_mono {q : Value → Bool} (hpq : ∀ v, p v = true → q v = true) {v : Value}
    (h : v.all p = true) : v.all q = true := by
  induction v using induction with
  | null => exact hpq _ h
  | bool b => exact hpq _ h
  | number n => exact hpq _ h
  | string s => exact hpq _ h
  | array items ih =>
      obtain ⟨harray, hitems⟩ := all_array_iff.mp h
      exact all_array_iff.mpr ⟨hpq _ harray, fun v hv => ih v hv (hitems v hv)⟩
  | object members ih =>
      obtain ⟨hobject, hmembers⟩ := all_object_iff.mp h
      exact all_object_iff.mpr ⟨hpq _ hobject, fun m hm => ih m hm (hmembers m hm)⟩

end

theorem isWhole_of_isIntegral {v : Value} (h : v.isIntegral = true) : v.isWhole = true := by
  apply all_mono _ h
  intro v hv
  cases v with
  | number n =>
      cases n with
      | integer n => exact hv
      | float x => nomatch hv
  | _ => rfl

/-! ## Ordered members -/

theorem insertMember_of_forall_lt {key : String} {value : Value} {members : List (String × Value)}
    (h : ∀ m ∈ members, m.1 < key) :
    Entries.insert key value members = members ++ [(key, value)] := by
  induction members with
  | nil => rfl
  | cons m rest ih =>
      obtain ⟨k, v⟩ := m
      have hk : k < key := h (k, v) List.mem_cons_self
      have hne : key ≠ k := by
        rintro rfl
        exact String.lt_irrefl key hk
      rw [Entries.insert, if_neg (String.lt_asymm hk), if_neg hne,
        ih fun m hm => h m (List.mem_cons_of_mem (k, v) hm), List.cons_append]

theorem foldl_insertMember (seen : List (String × Value)) {members : List (String × Value)}
    (h : (seen ++ members).Pairwise fun a b => a.1 < b.1) :
    members.foldl (fun acc m => Entries.insert m.1 m.2 acc) seen = seen ++ members := by
  induction members generalizing seen with
  | nil => simp
  | cons m rest ih =>
      have hlt : ∀ n ∈ seen, n.1 < m.1 :=
        fun n hn => (List.pairwise_append.mp h).2.2 n hn m List.mem_cons_self
      rw [List.append_cons] at h
      rw [List.foldl_cons, insertMember_of_forall_lt hlt, ih _ h, ← List.append_cons]

theorem ofMembers_of_pairwise {members : List (String × Value)}
    (h : members.Pairwise fun a b => a.1 < b.1) : ofMembers members = .object members := by
  rw [ofMembers, foldl_insertMember [] h, List.nil_append]

theorem canonical_eq_self {v : Value} (h : v.isOrdered = true) : v.canonical = v := by
  unfold isOrdered at h
  induction v using induction with
  | null => rfl
  | bool b => rfl
  | number n => rfl
  | string s => rfl
  | array items ih =>
      have hitems : items.map canonical = items.map id :=
        List.map_congr_left fun v hv => ih v hv ((all_array_iff.mp h).2 v hv)
      rw [canonical_array, hitems, List.map_id]
  | object members ih =>
      have hmembers : (members.map fun m => (m.1, m.2.canonical)) = members.map id :=
        List.map_congr_left fun m hm => by rw [ih m hm ((all_object_iff.mp h).2 m hm)]; rfl
      rw [canonical_object, hmembers, List.map_id]
      exact ofMembers_of_pairwise (of_decide_eq_true (all_object_iff.mp h).1)

end Value

end FlowConsole.Json
