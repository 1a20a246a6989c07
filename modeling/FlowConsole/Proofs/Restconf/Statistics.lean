import Mathlib.Data.List.Forall2
import FlowConsole.Proofs.Record.NodeId
import FlowConsole.Proofs.Restconf.Session
/-!
Flow counters, as a report has them.

What a report says stands at the end of paths of members and items. A path that leads nowhere says
nothing and is no error, so that a report of any shape has its sections and rows in exactly one way.
-/
namespace FlowConsole

open Json (Value)

namespace Record

inductive Step
  | member (key : String)
  | item (position : Nat)

/-- Whether a path leads from one value to another. -/
inductive LeadsTo : Value → List Step → Value → Prop
  | here (v : Value) : LeadsTo v [] v
  | member {members : List (String × Value)} {key : String} {v w : Value} {path : List Step}
      (hmember : members.lookup key = some v) (h : LeadsTo v path w) :
      LeadsTo (.object members) (.member key :: path) w
  | item {items : List Value} {position : Nat} {v w : Value} {path : List Step}
      (hitem : items[position]? = some v) (h : LeadsTo v path w) :
      LeadsTo (.array items) (.item position :: path) w

/-- What is read at the end of a path: a string as it is, nothing where there is nothing or `null`,
and anything else as compact JSON. -/
inductive Reads (v : Value) (path : List Step) : String → Prop
  | missing (h : ∀ w, ¬ LeadsTo v path w) : Reads v path ""
  | null (h : LeadsTo v path .null) : Reads v path ""
  | string {s : String} (h : LeadsTo v path (.string s)) : Reads v path s
  | other {w : Value} (h : LeadsTo v path w) (hnull : w ≠ .null) (hstring : ∀ s, w ≠ .string s) :
      Reads v path w.compact

/-- The items at the end of a path: those of an array, none where there is no array. -/
inductive HasItems (v : Value) (path : List Step) : List Value → Prop
  | array {items : List Value} (h : LeadsTo v path (.array items)) : HasItems v path items
  | nothing (h : ∀ items, ¬ LeadsTo v path (.array items)) : HasItems v path []

/-- The count at the end of a path: an integer of 64 bits without a sign, or else zero. -/
inductive Counts (v : Value) (path : List Step) : Nat → Prop
  | integer {n : Nat} (h : LeadsTo v path (.number (.ofNat n))) (hn : n < 2 ^ 64) : Counts v path n
  | other (h : ∀ n : Nat, n < 2 ^ 64 → ¬ LeadsTo v path (.number (.ofNat n))) : Counts v path 0

/-- The action that outputs, if there is one: the second of a list, the only one of a list, or the
one that stands there without a list. -/
inductive Outputs (v : Value) (path : List Step) : Option Value → Prop
  | second {first second : Value} {rest : List Value}
      (h : LeadsTo v path (.array (first :: second :: rest))) : Outputs v path (some second)
  | only {action : Value} (h : LeadsTo v path (.array [action])) : Outputs v path (some action)
  | single {members : List (String × Value)} (h : LeadsTo v path (.object members)) :
      Outputs v path (some (.object members))
  | nothing (harray : ∀ action rest, ¬ LeadsTo v path (.array (action :: rest)))
      (hobject : ∀ members, ¬ LeadsTo v path (.object members)) : Outputs v path none

/-- Whether a row is what a report says of a flow. -/
structure IsRow (counter : Value) (row : FlowCounter) : Prop where
  count : Counts counter [.member "packetCount"] row.count
  output : ∃ output, Outputs counter [.member "flow", .member "actions"] output ∧
    Reads (output.getD .null) [.member "type"] row.action ∧
    Reads (output.getD .null) [.member "port", .member "id"] row.port
  destination : Reads counter
    [.member "flow", .member "match", .member "matchField", .item 0, .member "value"]
    row.destination

/-- Whether a section is what a report says of a switch. -/
structure IsSection (switch : Value) (s : SwitchCounters) : Prop where
  id : Reads switch [.member "node", .member "id"] s.switch
  flows : ∃ counters, HasItems switch [.member "flowStatistic"] counters ∧
    List.Forall₂ IsRow counters s.flows

/-- Whether sections are what a report says, one for each switch in order. -/
def IsReport (report : Value) (sections : List SwitchCounters) : Prop :=
  ∃ switches, HasItems report [.member "flowStatistics"] switches ∧
    List.Forall₂ IsSection switches sections

/-! ## Paths -/

def valueAt : List Step → Value → Value
  | [], v => v
  | .member key :: path, v => valueAt path (v.member key)
  | .item position :: path, v => valueAt path (v.item position)

theorem valueAt_null (path : List Step) : valueAt path .null = .null := by
  induction path with
  | nil => rfl
  | cons step path ih => cases step <;> exact ih

section

variable {v w : Value} {path : List Step}

theorem LeadsTo.valueAt_eq (h : LeadsTo v path w) : valueAt path v = w := by
  induction h with
  | here v => rfl
  | member hmember _ ih =>
      rw [valueAt, Value.member, Value.get?, hmember]
      exact ih
  | item hitem _ ih =>
      rw [valueAt, Value.item, hitem]
      exact ih

theorem leadsTo_of_valueAt (h : valueAt path v = w) (hw : w ≠ .null) : LeadsTo v path w := by
  induction path generalizing v with
  | nil =>
      obtain rfl : v = w := h
      exact .here v
  | cons step path ih =>
      have hnull : valueAt path .null ≠ w := by
        rw [valueAt_null]
        exact hw.symm
      cases step with
      | member key =>
          cases v with
          | object members =>
              rw [valueAt, Value.member, Value.get?] at h
              cases hmember : members.lookup key with
              | none => exact absurd (by rwa [hmember] at h) hnull
              | some u => exact .member hmember (ih (by rwa [hmember] at h))
          | _ => exact absurd h hnull
      | item position =>
          cases v with
          | array items =>
              rw [valueAt, Value.item] at h
              cases hitem : items[position]? with
              | none => exact absurd (by rwa [hitem] at h) hnull
              | some u => exact .item hitem (ih (by rwa [hitem] at h))
          | _ => exact absurd h hnull

theorem reads_iff {text : String} : Reads v path text ↔ text = textOf (valueAt path v) := by
  constructor
  · intro h
    cases h with
    | missing h =>
        have hnull : valueAt path v = .null := by
          by_contra hend
          exact h _ (leadsTo_of_valueAt rfl hend)
        rw [hnull]
        rfl
    | null h | string h => rw [h.valueAt_eq]; rfl
    | other h hnull hstring =>
        rw [h.valueAt_eq, textOf]
        · exact hstring
        · exact hnull
  · rintro rfl
    cases hend : valueAt path v with
    | null =>
        by_cases h : ∃ w, LeadsTo v path w
        · obtain ⟨w, hw⟩ := h
          obtain rfl : w = .null := hw.valueAt_eq.symm.trans hend
          exact .null hw
        · exact .missing fun w hw => h ⟨w, hw⟩
    | string s => exact .string (leadsTo_of_valueAt hend nofun)
    | bool _ | number _ | array _ | object _ =>
        exact .other (leadsTo_of_valueAt hend nofun) nofun nofun

theorem hasItems_iff {items : List Value} :
    HasItems v path items ↔ items = (valueAt path v).array?.getD [] := by
  constructor
  · intro h
    cases h with
    | array h => rw [h.valueAt_eq]; rfl
    | nothing h =>
        cases hend : valueAt path v with
        | array items => exact absurd (leadsTo_of_valueAt hend nofun) (h items)
        | _ => rfl
  · rintro rfl
    cases hend : valueAt path v with
    | array items => exact .array (leadsTo_of_valueAt hend nofun)
    | _ =>
        refine .nothing fun items h => ?_
        cases hend.symm.trans h.valueAt_eq

theorem counts_iff {n : Nat} : Counts v path n ↔ n = (valueAt path v).nat?.getD 0 := by
  constructor
  · intro h
    cases h with
    | integer h hn =>
        have hend := h.valueAt_eq
        rw [Value.nat?_eq_some_iff.mpr ⟨hn, hend⟩, Option.getD_some]
    | other h =>
        have hnone : (valueAt path v).nat? = none := by
          refine Option.eq_none_iff_forall_ne_some.mpr fun n hn => ?_
          obtain ⟨hbound, hend⟩ := Value.nat?_eq_some_iff.mp hn
          exact h n hbound (leadsTo_of_valueAt hend nofun)
        rw [hnone, Option.getD_none]
  · rintro rfl
    cases hnat : (valueAt path v).nat? with
    | some n =>
        obtain ⟨hn, hend⟩ := Value.nat?_eq_some_iff.mp hnat
        exact .integer (leadsTo_of_valueAt hend nofun) hn
    | none =>
        refine .other fun n hn h => ?_
        cases hnat.symm.trans (Value.nat?_eq_some_iff.mpr ⟨hn, h.valueAt_eq⟩)

theorem outputs_iff {output : Option Value} :
    Outputs v path output ↔ output = outputAction? (valueAt path v) := by
  constructor
  · intro h
    cases h with
    | second h | only h | single h => rw [h.valueAt_eq]; rfl
    | nothing harray hobject =>
        cases hend : valueAt path v with
        | array items =>
            cases items with
            | nil => rfl
            | cons action rest =>
                exact absurd (leadsTo_of_valueAt hend nofun) (harray action rest)
        | object members => exact absurd (leadsTo_of_valueAt hend nofun) (hobject members)
        | _ => rfl
  · rintro rfl
    have hnothing (harray : ∀ action rest, valueAt path v ≠ .array (action :: rest))
        (hobject : ∀ members, valueAt path v ≠ .object members) : Outputs v path none :=
      .nothing (fun action rest h => harray action rest h.valueAt_eq)
        (fun members h => hobject members h.valueAt_eq)
    cases hend : valueAt path v with
    | object members => exact .single (leadsTo_of_valueAt hend nofun)
    | array items =>
        rcases items with _ | ⟨first, _ | ⟨second, rest⟩⟩
        · exact hnothing (by simp [hend]) (by simp [hend])
        · exact .only (leadsTo_of_valueAt hend nofun)
        · exact .second (leadsTo_of_valueAt hend nofun)
    | null | bool _ | number _ | string _ => exact hnothing (by simp [hend]) (by simp [hend])

end

/-! ## Reports -/

theorem isRow_iff {counter : Value} {row : FlowCounter} :
    IsRow counter row ↔ row = FlowCounter.ofReport counter := by
  have hcount : Counts counter [.member "packetCount"] row.count ↔
      row.count = (FlowCounter.ofReport counter).count := by
    simp only [counts_iff, valueAt, FlowCounter.ofReport]
  have houtput : (∃ output, Outputs counter [.member "flow", .member "actions"] output ∧
      Reads (output.getD .null) [.member "type"] row.action ∧
      Reads (output.getD .null) [.member "port", .member "id"] row.port) ↔
        row.action = (FlowCounter.ofReport counter).action ∧
          row.port = (FlowCounter.ofReport counter).port := by
    simp only [outputs_iff, reads_iff, exists_eq_left, valueAt, FlowCounter.ofReport]
    cases outputAction? ((counter.member "flow").member "actions") <;> rfl
  have hdestination : Reads counter
      [.member "flow", .member "match", .member "matchField", .item 0, .member "value"]
      row.destination ↔ row.destination = (FlowCounter.ofReport counter).destination := by
    simp only [reads_iff, valueAt, FlowCounter.ofReport]
  obtain ⟨count, action, port, destination⟩ := row
  rw [FlowCounter.ofReport, FlowCounter.mk.injEq]
  constructor
  · rintro ⟨hcounts, houtputs, hmatch⟩
    obtain ⟨haction, hport⟩ := houtput.mp houtputs
    exact ⟨hcount.mp hcounts, haction, hport, hdestination.mp hmatch⟩
  · rintro ⟨hcounts, haction, hport, hmatch⟩
    exact ⟨hcount.mpr hcounts, houtput.mpr ⟨haction, hport⟩, hdestination.mpr hmatch⟩

theorem forall₂_iff_eq_map {α β : Type} {R : α → β → Prop} {f : α → β}
    (h : ∀ a b, R a b ↔ b = f a) {as : List α} {bs : List β} :
    List.Forall₂ R as bs ↔ bs = as.map f := by
  have hR : R = fun a b => f a = b := by
    funext a b
    rw [h, @eq_comm _ b]
  rw [hR, ← List.forall₂_map_left_iff, List.forall₂_eq_eq_eq, eq_comm]

theorem exists_hasItems_iff {v : Value} {key : String} {β : Type} {R : Value → β → Prop}
    {f : Value → β} (h : ∀ a b, R a b ↔ b = f a) {bs : List β} :
    (∃ items, HasItems v [.member key] items ∧ List.Forall₂ R items bs) ↔
      bs = (((v.get? key).bind Value.array?).getD []).map f := by
  have hitems : (valueAt [.member key] v).array? = (v.get? key).bind Value.array? := by
    rw [valueAt, valueAt, Value.member]
    cases v.get? key <;> rfl
  simp only [hasItems_iff, forall₂_iff_eq_map h, exists_eq_left, hitems]

theorem isSection_iff {switch : Value} {s : SwitchCounters} :
    IsSection switch s ↔ s = SwitchCounters.ofReport switch := by
  have hid : Reads switch [.member "node", .member "id"] s.switch ↔
      s.switch = (SwitchCounters.ofReport switch).switch := by
    simp only [reads_iff, valueAt, SwitchCounters.ofReport]
  have hflows : (∃ counters, HasItems switch [.member "flowStatistic"] counters ∧
      List.Forall₂ IsRow counters s.flows) ↔ s.flows = (SwitchCounters.ofReport switch).flows :=
    exists_hasItems_iff (R := IsRow) fun _ _ => isRow_iff
  obtain ⟨id, flows⟩ := s
  rw [SwitchCounters.ofReport, SwitchCounters.mk.injEq]
  constructor
  · rintro ⟨hswitch, hrows⟩
    exact ⟨hid.mp hswitch, hflows.mp hrows⟩
  · rintro ⟨hswitch, hrows⟩
    exact ⟨hid.mpr hswitch, hflows.mpr hrows⟩

theorem isReport_iff {report : Value} {sections : List SwitchCounters} :
    IsReport report sections ↔ sections = countersOfReport report :=
  exists_hasItems_iff (R := IsSection) fun _ _ => isSection_iff

end Record

namespace Restconf.Session

open Http Record

theorem except_bind_eq_ok_iff {ε α β : Type} {x : Except ε α} {f : α → Except ε β} {b : β} :
    x.bind f = .ok b ↔ ∃ a, x = .ok a ∧ f a = .ok b := by
  cases x with
  | error e => exact iff_of_false nofun (by simp)
  | ok a => simp [Except.bind]

theorem reading_eq_ok_iff {path : String} {r r' : Response} :
    reading path r = .ok r' ↔ r.status ≠ 401 ∧ r = r' := by
  unfold reading
  split <;> simp_all

theorem json_map_eq_ok_iff {α : Type} {r : Response} {f : Value → α} {a : α} :
    r.json.map f = .ok a ↔ ∃ v, Json.parse r.body = .ok v ∧ f v = a := by
  unfold Response.json
  cases Json.parse r.body <;> simp [Except.map]

/-- Each report says one thing, and nothing in it makes reading it fail: statistics are read unless
the call fails, the credentials are rejected or the answer is not JSON. -/
theorem statistics_tell :
    (∀ report sections, IsReport report sections ↔ sections = countersOfReport report) ∧
    ∀ s sections, (statistics s).1 = .ok sections ↔
      ∃ reply report, (s.exchange .get Path.statistics none).1 = .ok reply ∧ reply.status ≠ 401 ∧
        Json.parse reply.body = .ok report ∧ IsReport report sections := by
  refine ⟨fun report sections => isReport_iff, fun s sections => ?_⟩
  simp only [statistics_apply, except_bind_eq_ok_iff, reading_eq_ok_iff, json_map_eq_ok_iff,
    isReport_iff]
  constructor
  · rintro ⟨reply, hreply, _, ⟨hstatus, rfl⟩, report, hreport, rfl⟩
    exact ⟨reply, report, hreply, hstatus, hreport, rfl⟩
  · rintro ⟨reply, report, hreply, hstatus, hreport, rfl⟩
    exact ⟨reply, hreply, reply, ⟨hstatus, rfl⟩, report, hreport, rfl⟩

end Restconf.Session

end FlowConsole
