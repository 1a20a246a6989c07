import Mathlib.Data.List.Forall2
import FlowConsole.Proofs.Action
import FlowConsole.Proofs.Json.Members
import FlowConsole.Proofs.Json.RoundTrip
import FlowConsole.Report.Text
/-!
Reports in JSON come back as what was reported.

An `Encoding` pairs the JSON form of a type with a reader for it. The reader meets the form as JSON
readers give it, with the members of each object by ascending key, and not in the order in which
they were written. Main statement: lists of outcomes, of removals and of switch counters come back
item by item from either JSON format.
-/
namespace FlowConsole.Report

open Json (Value)
open Record (FlowCounter FlowKey SwitchCounters)
open Restconf (Outcome Removal)

theorem parse_jsonText (f : Format) {v : Value} (h : v.isWhole = true)
    (hdepth : v.nesting < Json.depthLimit) : Json.parse (f.jsonText v) = .ok v.canonical := by
  cases f with
  | compact => exact Value.parse_compact_of_isWhole h hdepth
  | table | json => exact Value.parse_pretty_of_isWhole h hdepth

/-- A way of writing values of a type as JSON and of finding them again in what is read. `Fits` says
that the numbers in a value have the size of their types. -/
structure Encoding (α : Type) where
  write : α → Value
  read? : Value → Option α
  Fits : α → Prop
  depth : Nat
  write_isIntegral : ∀ x, Fits x → (write x).isIntegral = true
  write_nesting : ∀ x, (write x).nesting ≤ depth
  read?_canonical : ∀ x, Fits x → read? (write x).canonical = some x

namespace Encoding

variable {α : Type}

/-! ## The parts of a record -/

theorem lt_of_bits {bits n : Nat} (hbits : bits ≤ 64) (hn : n < 2 ^ bits) :
    n < 0x10000000000000000 :=
  hn.trans_le (Nat.pow_le_pow_right Nat.zero_lt_two hbits)

theorem isIntegral_ofNat {n : Nat} (hn : n < 0x10000000000000000) :
    (Value.ofNat n).isIntegral = true := by
  have hinteger : (Json.Number.ofNat n).isInteger64 = true := by
    simp only [Json.Number.ofNat, Json.Number.isInteger64, Bool.and_eq_true, decide_eq_true_eq]
    omega
  exact hinteger

def natural (bits : Nat) (hbits : bits ≤ 64) : Encoding Nat where
  write := Value.ofNat
  read? := Value.nat?
  Fits n := n < 2 ^ bits
  depth := 0
  write_isIntegral _ hn := isIntegral_ofNat (lt_of_bits hbits hn)
  write_nesting _ := Nat.le_refl 0
  read?_canonical _ hn := Value.nat?_eq_some_iff.mpr ⟨lt_of_bits hbits hn, rfl⟩

def text : Encoding String where
  write := Value.string
  read? := Value.string?
  Fits _ := True
  depth := 0
  write_isIntegral _ _ := rfl
  write_nesting _ := Nat.le_refl 0
  read?_canonical _ _ := rfl

def textOrNull? : Value → Option (Option String)
  | .null => some none
  | .string s => some (some s)
  | _ => none

/-- Texts that may be absent. -/
def textOrNull : Encoding (Option String) where
  write := Value.ofString?
  read? := textOrNull?
  Fits _ := True
  depth := 0
  write_isIntegral s _ := by cases s <;> rfl
  write_nesting s := by cases s <;> exact Nat.le_refl 0
  read?_canonical s _ := by cases s <;> rfl

def list (e : Encoding α) : Encoding (List α) where
  write xs := .array (xs.map e.write)
  read? v := v.array?.bind fun items => items.mapM e.read?
  Fits xs := ∀ x ∈ xs, e.Fits x
  depth := e.depth + 1
  write_isIntegral xs hxs := by
    refine Value.all_array_iff.mpr ⟨rfl, fun v hv => ?_⟩
    obtain ⟨x, hx, rfl⟩ := List.mem_map.mp hv
    exact e.write_isIntegral x (hxs x hx)
  write_nesting xs := by
    refine Nat.succ_le_succ (Value.nestingItems_le_iff.mpr fun v hv => ?_)
    obtain ⟨x, -, rfl⟩ := List.mem_map.mp hv
    exact e.write_nesting x
  read?_canonical xs hxs := by
    have hread : (xs.map fun x => (e.write x).canonical).mapM e.read? = some xs :=
      mapM_map_of_forall fun x hx => e.read?_canonical x (hxs x hx)
    rw [Value.canonical_array, List.map_map]
    exact hread

/-- The encoding of another type that is made of the same parts. -/
def through (e : Encoding α) {β : Type} (parts : β → α) (make : α → β)
    (hmake : ∀ y, make (parts y) = y) : Encoding β where
  write y := e.write (parts y)
  read? v := (e.read? v).map make
  Fits y := e.Fits (parts y)
  depth := e.depth
  write_isIntegral y hy := e.write_isIntegral (parts y) hy
  write_nesting y := e.write_nesting (parts y)
  read?_canonical y hy := by rw [e.read?_canonical (parts y) hy, Option.map_some, hmake]

end Encoding

/-- The members of an object under keys that are the same for all values, each with an encoding of
its own. -/
structure Members (α : Type) where
  keys : List String
  write : α → List (String × Value)
  read? : Value → Option α
  Fits : α → Prop
  depth : Nat
  write_keys : ∀ x, (write x).map Prod.fst = keys
  write_isIntegral : ∀ x, Fits x → ∀ m ∈ write x, m.2.isIntegral = true
  write_nesting : ∀ x, ∀ m ∈ write x, m.2.nesting ≤ depth
  read?_eq : ∀ x v, Fits x → (∀ m ∈ write x, v.get? m.1 = some m.2.canonical) → read? v = some x

namespace Members

variable {α β : Type}

def none : Members Unit where
  keys := []
  write _ := []
  read? _ := some ()
  Fits _ := True
  depth := 0
  write_keys _ := rfl
  write_isIntegral := by simp
  write_nesting := by simp
  read?_eq _ _ _ _ := rfl

def cons (key : String) (e : Encoding α) (rest : Members β) : Members (α × β) where
  keys := key :: rest.keys
  write x := (key, e.write x.1) :: rest.write x.2
  read? v := do
    let first ← (v.get? key).bind e.read?
    let others ← rest.read? v
    some (first, others)
  Fits x := e.Fits x.1 ∧ rest.Fits x.2
  depth := max e.depth rest.depth
  write_keys x := by rw [List.map_cons, rest.write_keys]
  write_isIntegral x hx :=
    List.forall_mem_cons.mpr ⟨e.write_isIntegral x.1 hx.1, rest.write_isIntegral x.2 hx.2⟩
  write_nesting x := List.forall_mem_cons.mpr ⟨(e.write_nesting x.1).trans (Nat.le_max_left _ _),
    fun m hm => (rest.write_nesting x.2 m hm).trans (Nat.le_max_right _ _)⟩
  read?_eq x v hx h := by
    obtain ⟨hfirst, hothers⟩ := List.forall_mem_cons.mp h
    rw [hfirst, rest.read?_eq x.2 v hx.2 hothers, Option.bind_some, e.read?_canonical x.1 hx.1]
    rfl

def object (ms : Members α) (hkeys : ms.keys.Nodup) : Encoding α where
  write x := .object (ms.write x)
  read? := ms.read?
  Fits := ms.Fits
  depth := ms.depth + 1
  write_isIntegral x hx := Value.all_object_iff.mpr ⟨rfl, ms.write_isIntegral x hx⟩
  write_nesting x := Nat.succ_le_succ (Value.nestingMembers_le_iff.mpr (ms.write_nesting x))
  read?_canonical x hx := by
    rw [← ms.write_keys x] at hkeys
    exact ms.read?_eq x _ hx fun m hm => Value.get?_canonical hkeys hm

end Members

/-! ## What is reported -/

namespace Encoding

def status : Encoding Nat := natural 16 (by decide)

def count : Encoding Nat := natural 64 (by decide)

def outcome : Encoding Outcome :=
  (Members.cons "status" status <| .cons "reason" text <| .cons "explanation" textOrNull <|
    .cons "body" text .none).object (by decide) |>.through
      (fun o => (o.status, o.reason, o.explanation, o.body, ()))
      (fun (status, reason, explanation, body, _) => { status, reason, explanation, body })
      fun _ => rfl

def flowKey : Encoding FlowKey :=
  (Members.cons "node" count <| .cons "table" count <| .cons "id" text <|
    .cons "name" textOrNull .none).object (by decide) |>.through
      (fun k => (k.node, k.table, k.id, k.name, ()))
      (fun (node, table, id, name, _) => { node, table, id, name })
      fun _ => rfl

def removal : Encoding Removal :=
  (Members.cons "key" flowKey <| .cons "outcome" outcome .none).object (by decide) |>.through
    (fun r => (r.key, r.outcome, ())) (fun (key, outcome, _) => { key, outcome }) fun _ => rfl

def flowCounter : Encoding FlowCounter :=
  (Members.cons "count" count <| .cons "action" text <| .cons "port" text <|
    .cons "dest_ip" text .none).object (by decide) |>.through
      (fun c => (c.count, c.action, c.port, c.destination, ()))
      (fun (count, action, port, destination, _) => { count, action, port, destination })
      fun _ => rfl

def switchCounters : Encoding SwitchCounters :=
  (Members.cons "switch_id" text <| .cons "rows" flowCounter.list .none).object (by decide)
    |>.through (fun s => (s.switch, s.flows, ())) (fun (switch, flows, _) => { switch, flows })
      fun _ => rfl

end Encoding

/-! ## Lists in either format -/

/-- Whether lists come back from their texts. In both JSON formats, with or without colours, a list
is read as the same array, with an object for each item, in order, in which the item is found again.
So no two lists have a text in common. -/
structure ReadsBack {α : Type} (fits : α → Prop) (read? : Value → Option α)
    (text : Format → Bool → List α → String) : Prop where
  parse : ∀ xs, (∀ x ∈ xs, fits x) → ∃ items,
    (∀ f, f ≠ .table → ∀ color, Json.parse (text f color xs) = .ok (.array items)) ∧
      List.Forall₂ (fun x item => item.isObject = true ∧ read? item = some x) xs items
  injective : ∀ f f', f ≠ .table → f' ≠ .table → ∀ color color' xs ys, (∀ x ∈ xs, fits x) →
    (∀ y ∈ ys, fits y) → text f color xs = text f' color' ys → xs = ys
  colourless : ∀ f, f ≠ .table → text f true = text f false

namespace Encoding

variable {α : Type}

theorem parse_list (e : Encoding α) (hdepth : e.depth + 1 < Json.depthLimit) (f : Format)
    {xs : List α} (hxs : ∀ x ∈ xs, e.Fits x) :
    Json.parse (f.jsonText (e.list.write xs)) = .ok (e.list.write xs).canonical :=
  parse_jsonText f (Value.isWhole_of_isIntegral (e.list.write_isIntegral xs hxs))
    (Nat.lt_of_le_of_lt (e.list.write_nesting xs) hdepth)

theorem readsBack (e : Encoding α) (hdepth : e.depth + 1 < Json.depthLimit) {fits : α → Prop}
    (hfits : ∀ x, fits x → e.Fits x) (hobject : ∀ x, (e.write x).canonical.isObject = true)
    {text : Format → Bool → List α → String}
    (htext : ∀ f, f ≠ .table → ∀ color xs, text f color xs = f.jsonText (e.list.write xs)) :
    ReadsBack fits e.read? text where
  parse xs hxs := by
    have hcanonical : (e.list.write xs).canonical =
        .array (xs.map fun x => (e.write x).canonical) := by
      change (Value.array (xs.map e.write)).canonical = _
      rw [Value.canonical_array, List.map_map]
      rfl
    refine ⟨xs.map fun x => (e.write x).canonical, fun f hf color => ?_, ?_⟩
    · rw [htext f hf, ← hcanonical]
      exact e.parse_list hdepth f fun x hx => hfits x (hxs x hx)
    · rw [List.forall₂_map_right_iff, List.forall₂_same]
      exact fun x hx => ⟨hobject x, e.read?_canonical x (hfits x (hxs x hx))⟩
  injective f f' hf hf' color color' xs ys hxs hys h := by
    have hx : ∀ x ∈ xs, e.Fits x := fun x hx => hfits x (hxs x hx)
    have hy : ∀ y ∈ ys, e.Fits y := fun y hy => hfits y (hys y hy)
    rw [htext f hf, htext f' hf'] at h
    -- one value is read from the one text, and one list is found in it
    have hparse := e.parse_list hdepth f hx
    rw [h, e.parse_list hdepth f' hy, Except.ok.injEq] at hparse
    have hread := e.list.read?_canonical xs hx
    rw [← hparse, e.list.read?_canonical ys hy, Option.some.injEq] at hread
    exact hread.symm
  colourless f hf := by
    funext xs
    rw [htext f hf, htext f hf]

end Encoding

theorem outcomesText_eq {f : Format} (hf : f ≠ .table) (color : Bool) (os : List Outcome) :
    outcomesText f color os = f.jsonText (Encoding.outcome.list.write os) := by
  cases f with
  | table => exact absurd rfl hf
  | json | compact => rfl

theorem removalsText_eq {f : Format} (hf : f ≠ .table) (color : Bool) (rs : List Removal) :
    removalsText f color rs = f.jsonText (Encoding.removal.list.write rs) := by
  cases f with
  | table => exact absurd rfl hf
  | json | compact => rfl

theorem statisticsText_eq {f : Format} (hf : f ≠ .table) (ss : List SwitchCounters) :
    statisticsText f ss = f.jsonText (Encoding.switchCounters.list.write ss) := by
  cases f with
  | table => exact absurd rfl hf
  | json | compact => rfl

/-- Outcomes, removals and switch counters come back, whatever their texts are and as large as their
numbers may be. -/
theorem lists_readBack :
    ReadsBack (fun o : Outcome => o.status < 2 ^ 16) Encoding.outcome.read? outcomesText ∧
      ReadsBack (fun r : Removal => r.key.node < 2 ^ 64 ∧ r.key.table < 2 ^ 64 ∧
        r.outcome.status < 2 ^ 16) Encoding.removal.read? removalsText ∧
      ReadsBack (fun s : SwitchCounters => ∀ c ∈ s.flows, c.count < 2 ^ 64)
        Encoding.switchCounters.read? fun f _ => statisticsText f := by
  have houtcome : ∀ o : Outcome, o.status < 2 ^ 16 → Encoding.outcome.Fits o :=
    fun _ ho => ⟨ho, trivial, trivial, trivial, trivial⟩
  have hkey : ∀ k : FlowKey, k.node < 2 ^ 64 → k.table < 2 ^ 64 → Encoding.flowKey.Fits k :=
    fun _ hnode htable => ⟨hnode, htable, trivial, trivial, trivial⟩
  have hcounter : ∀ c : FlowCounter, c.count < 2 ^ 64 → Encoding.flowCounter.Fits c :=
    fun _ hc => ⟨hc, trivial, trivial, trivial, trivial⟩
  refine ⟨?outcomes, ?removals, ?statistics⟩
  case outcomes =>
    exact Encoding.outcome.readsBack (by decide) houtcome (fun _ => rfl) fun _ => outcomesText_eq
  case removals =>
    refine Encoding.removal.readsBack (by decide) ?_ (fun _ => rfl) fun _ => removalsText_eq
    exact fun r hr => ⟨hkey r.key hr.1 hr.2.1, houtcome r.outcome hr.2.2, trivial⟩
  case statistics =>
    refine Encoding.switchCounters.readsBack (by decide) ?_ (fun _ => rfl)
      fun _ hf _ => statisticsText_eq hf
    exact fun s hs => ⟨trivial, fun c hc => hcounter c (hs c hc), trivial⟩

/-- A removal with the largest numbers, and with characters that are escaped. -/
def limitRemoval : Removal where
  key := { node := 0xffffffffffffffff, table := 0, id := "vidéo \"1\"\n", name := none }
  outcome := { status := 0xffff, reason := "", explanation := some "\\", body := "\x00" }

theorem lists_readBack_limits :
    ∃ items, (∀ f, f ≠ .table → ∀ color,
        Json.parse (removalsText f color [limitRemoval]) = .ok (.array items)) ∧
      items.map Encoding.removal.read? = [some limitRemoval] := by
  obtain ⟨items, hparse, hitems⟩ := lists_readBack.2.1.parse [limitRemoval] (by decide)
  obtain ⟨item, rest, ⟨-, hitem⟩, hrest, rfl⟩ := List.forall₂_cons_left_iff.mp hitems
  obtain rfl := List.forall₂_nil_left_iff.mp hrest
  exact ⟨[item], hparse, by rw [List.map_cons, hitem, List.map_nil]⟩

end FlowConsole.Report
