import Mathlib.Data.List.DropRight
import Mathlib.Data.List.Forall2
import FlowConsole.Record.Listing
/-!
Which keys of flows can be used.

An id that a flow gives itself is trimmed, and passed over if it is blank. The name that stands in
for a missing id is taken as it is; so the keys of a listing can be used exactly if those names can.
-/
namespace FlowConsole

namespace Text

/-- Whether a text can stand for a flow: it is not empty, and no blank starts or ends it. -/
structure IsUsable (s : String) : Prop where
  notEmpty : s.toList ≠ []
  first : ∀ c ∈ s.toList.head?, isBlank c = false
  last : ∀ c ∈ s.toList.getLast?, isBlank c = false

instance : DecidablePred IsUsable := fun s =>
  decidable_of_iff (s.toList ≠ [] ∧ s.toList.head?.all (fun c => !isBlank c) = true ∧
      s.toList.getLast?.all (fun c => !isBlank c) = true)
    ⟨fun ⟨notEmpty, first, last⟩ => ⟨notEmpty, by simpa [Option.all_eq_true] using first,
        by simpa [Option.all_eq_true] using last⟩,
      fun h => ⟨h.notEmpty, by simpa [Option.all_eq_true] using h.first,
        by simpa [Option.all_eq_true] using h.last⟩⟩

theorem IsUsable.isBlankText_eq_false {s : String} (h : IsUsable s) : isBlankText s = false := by
  obtain ⟨c, rest, hs⟩ := List.exists_cons_of_ne_nil h.notEmpty
  have hc := h.first c (by rw [hs]; rfl)
  simp [isBlankText, hs, hc]

theorem dropEndWhile_eq_rdropWhile (p : Char → Bool) (s : List Char) :
    dropEndWhile p s = s.rdropWhile p := rfl

theorem isUsable_trim {s : String} (h : isBlankText s = false) : IsUsable (trim s) := by
  obtain ⟨c, rest, hdrop⟩ : ∃ c rest, s.toList.dropWhile isBlank = c :: rest := by
    apply List.exists_cons_of_ne_nil
    rw [Ne, List.dropWhile_eq_nil_iff]
    simpa [isBlankText] using h
  have hc : isBlank c = false := by
    have hhead := List.head_dropWhile_not isBlank (w := by rw [hdrop]; simp)
    simpa [hdrop] using hhead
  have hne : (c :: rest).rdropWhile isBlank ≠ [] := by
    rw [Ne, List.rdropWhile_eq_nil_iff]
    intro hall
    exact Bool.eq_false_iff.mp hc (hall c List.mem_cons_self)
  obtain ⟨back, hback⟩ := List.rdropWhile_prefix isBlank (l := c :: rest)
  have htrim : (trim s).toList = (c :: rest).rdropWhile isBlank := by
    rw [trim, String.toList_ofList, trimChars, hdrop, dropEndWhile_eq_rdropWhile]
  constructor
  case notEmpty => rwa [htrim]
  case first =>
    intro d hd
    rw [htrim] at hd
    obtain ⟨e, front, hfront⟩ := List.exists_cons_of_ne_nil hne
    rw [hfront] at hd hback
    obtain rfl : e = d := Option.some.inj hd
    rwa [(List.cons.inj hback).1]
  case last =>
    intro d hd
    rw [htrim, List.getLast?_eq_some_getLast hne] at hd
    have hlast := List.rdropWhile_last_not isBlank (c :: rest) hne
    rw [Option.mem_some_iff.mp hd] at hlast
    simpa using hlast

theorem isBlank_eq_false_of_isDigit {c : Char} (h : c.isDigit = true) : isBlank c = false := by
  have hbounds := Char.isDigit_iff_toNat.mp h
  have h0 : '0'.toNat = 48 := rfl
  have h9 : '9'.toNat = 57 := rfl
  simp only [isBlank, Bool.or_eq_false_iff, Bool.and_eq_false_iff, decide_eq_false_iff_not,
    beq_eq_false_iff_ne]
  omega

theorem isUsable_toString (n : Nat) : IsUsable (toString n) := by
  have hlist : (toString n).toList = Nat.toDigits 10 n := by simp [toString, Nat.repr]
  have hdigit : ∀ c ∈ Nat.toDigits 10 n, isBlank c = false := fun c hc =>
    isBlank_eq_false_of_isDigit (Nat.isDigit_of_mem_toDigits (by decide) (by decide) hc)
  constructor
  case notEmpty => rw [hlist]; exact Nat.toDigits_ne_nil
  case first => rw [hlist]; exact fun c hc => hdigit c (List.mem_of_mem_head? hc)
  case last => rw [hlist]; exact fun c hc => hdigit c (List.mem_of_mem_getLast? hc)

end Text

namespace Record

open Json Text

theorem segmentId?_number (k : Number) : segmentId? (.number k) = k.toNat?.map toString := by
  cases k with
  | float x => rfl
  | integer i =>
      rw [segmentId?, Number.toNat?]
      split
      · rename_i hbounds
        obtain ⟨n, rfl⟩ := Int.eq_ofNat_of_zero_le hbounds.1
        rw [Option.isSome_some, if_pos rfl, Number.text, Number.integerText, if_neg (by omega)]
        rfl
      · rfl

theorem isUsable_of_segmentId? {v : Value} {id : String} (h : segmentId? v = some id) :
    IsUsable id := by
  cases v with
  | number k =>
      rw [segmentId?_number] at h
      obtain ⟨n, -, rfl⟩ := Option.map_eq_some_iff.mp h
      exact isUsable_toString n
  | string s =>
      rw [segmentId?] at h
      split at h
      · simp at h
      · rename_i hblank
        obtain rfl := Option.some.inj h
        exact isUsable_trim (Bool.eq_false_iff.mpr hblank)
  | _ => simp [segmentId?] at h

def ownId? (record : Value) : Option String :=
  ((flowBody record).get? "id").bind segmentId?

def ownName? (record : Value) : Option String :=
  flowName? (flowBody record)

/-- Whether the name of a flow can stand in for its id, as far as that is needed. -/
def NameWillDo (record : Value) : Prop :=
  ownId? record = none → ∀ name ∈ ownName? record, IsUsable name

theorem isUsable_of_ownId? {record : Value} {id : String} (h : ownId? record = some id) :
    IsUsable id := by
  obtain ⟨v, -, hid⟩ := Option.bind_eq_some_iff.mp h
  exact isUsable_of_segmentId? hid

namespace FlowKey

theorem ofRecord_eq_ok_iff {record : Value} {key : FlowKey} :
    ofRecord record = .ok key ↔
      nodeId? (flowBody record) = some key.node ∧
        key.table = (((flowBody record).get? "table_id").bind numericId?).getD defaultTable ∧
        ownId? record = some key.id ∧ key.name = ownName? record := by
  obtain ⟨node, table, id, name⟩ := key
  dsimp only [ofRecord, ownId?, ownName?]
  split
  · rename_i hnode
    simp [hnode]
  · rename_i hid
    simp [hid]
  · rename_i hnode hid
    simp [hnode, hid, eq_comm]

theorem ofRecord_isUsable {record : Value} {key : FlowKey} (h : ofRecord record = .ok key) :
    IsUsable key.id :=
  isUsable_of_ownId? (ofRecord_eq_ok_iff.mp h).2.2.1

section

variable (record : Value) (node table : Nat)

/-- The key of a listed flow, by the id it gives itself or else by its name. -/
theorem ofListed_toOption :
    (ofListed record node table).toOption =
      ((ownId? record).or (ownName? record)).map fun id =>
        { node, table, id, name := ownName? record } := by
  unfold ofListed
  dsimp only
  split
  · rename_i h
    have hnone : (ownId? record).or (ownName? record) = none := h
    rw [hnone]
    rfl
  · rename_i id h
    have hsome : (ownId? record).or (ownName? record) = some id := h
    rw [hsome]
    rfl

theorem ofListed_eq_ok_iff {key : FlowKey} :
    ofListed record node table = .ok key ↔ (ofListed record node table).toOption = some key := by
  cases ofListed record node table <;> simp [Except.toOption]

theorem ofListed_isUsable_iff :
    (∀ key, ofListed record node table = .ok key → IsUsable key.id) ↔ NameWillDo record := by
  simp only [ofListed_eq_ok_iff, ofListed_toOption, NameWillDo]
  cases hid : ownId? record with
  | some id => simp [isUsable_of_ownId? hid]
  | none => simp

end

end FlowKey

theorem NameWillDo.toOption_eq_none_iff {record : Value} (h : NameWillDo record)
    (node table : Nat) :
    (FlowKey.ofListed record node table).toOption = none ↔
      ownId? record = none ∧ ∀ name ∈ ownName? record, isBlankText name = true := by
  rw [FlowKey.ofListed_toOption, Option.map_eq_none_iff, Option.or_eq_none_iff]
  refine and_congr_right fun hid => ⟨?_, ?_⟩
  · intro hname name hmem
    simp [hname] at hmem
  · intro hblank
    by_contra hsome
    obtain ⟨name, hname⟩ := Option.ne_none_iff_exists'.mp hsome
    have hnot := (h hid name hname).isBlankText_eq_false
    rw [hblank name hname] at hnot
    exact Bool.noConfusion hnot

namespace Listing

variable (l : Listing)

theorem mem_keys_iff {key : FlowKey} :
    key ∈ l.keys ↔ ∃ flow ∈ l.flows, FlowKey.ofListed flow l.node l.table = .ok key := by
  simp [keys, entries, FlowKey.ofListed_eq_ok_iff]

theorem mem_keys_address {l : Listing} {key : FlowKey} (h : key ∈ l.keys) :
    key.node = l.node ∧ key.table = l.table := by
  obtain ⟨flow, -, hkey⟩ := l.mem_keys_iff.mp h
  rw [FlowKey.ofListed_eq_ok_iff, FlowKey.ofListed_toOption] at hkey
  obtain ⟨id, -, rfl⟩ := Option.map_eq_some_iff.mp hkey
  exact ⟨rfl, rfl⟩

theorem map_some_keys : l.keys.map some = l.entries.filter Option.isSome := by
  rw [keys]
  induction l.entries with
  | nil => rfl
  | cons entry rest ih => cases entry <;> simpa using ih

theorem keys_isUsable_iff :
    (∀ key ∈ l.keys, IsUsable key.id) ↔ ∀ flow ∈ l.flows, NameWillDo flow := by
  simp only [mem_keys_iff, ← FlowKey.ofListed_isUsable_iff _ l.node l.table]
  exact ⟨fun h flow hflow key hkey => h key ⟨flow, hflow, hkey⟩,
    fun h key ⟨flow, hflow, hkey⟩ => h flow hflow key hkey⟩

end Listing

end Record

end FlowConsole
