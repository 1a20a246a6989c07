import Mathlib.Data.List.Forall2
import FlowConsole.Proofs.Report.JsonText
/-!
What a catalogue in JSON tells of its entries.

The kind of an entry is spread out beside its letter and its name. A reader keeps the last of two
members under one key, so that of a flow the name of the flow is read, and that of its fixture is
lost. Nothing else is.
-/
namespace FlowConsole.Report

open Fixture (Entry Kind Store)
open Json (Value)

def kindName : Kind → String
  | .cmts _ => "cmts"
  | .flow _ => "flow"
  | .invalid => "invalid"

def detailKey : Kind → String
  | .cmts _ => "address"
  | _ => "name"

/-- Whether an object tells an entry. -/
structure Tells (item : Value) (e : Entry) : Prop where
  letter : item.get? "letter" = some (.string e.letter)
  name : item.get? "name" = some (.string e.name)
  kind : item.get? "kind" = some (.string (kindName e.kind))
  detail : ∀ text, e.kind.detail? = some text →
    item.get? (detailKey e.kind) = some (.string text)

/-- An entry as it is read: a flow goes by its own name. -/
def asRead (e : Entry) : Entry :=
  match e.kind with
  | .flow name => { e with name }
  | _ => e

theorem asRead_eq_self_iff (e : Entry) : asRead e = e ↔ (asRead e).name = e.name := by
  obtain ⟨letter, name, kind⟩ := e
  cases kind <;> simp [asRead]

def readJson (e : Entry) : Value :=
  match e.kind with
  | .cmts address =>
    .object [("address", .string address), ("kind", .string "cmts"), ("letter", .string e.letter),
      ("name", .string e.name)]
  | .flow name =>
    .object [("kind", .string "flow"), ("letter", .string e.letter), ("name", .string name)]
  | .invalid =>
    .object [("kind", .string "invalid"), ("letter", .string e.letter), ("name", .string e.name)]

theorem canonical_entryJson (e : Entry) : (entryJson e).canonical = readJson e := by
  obtain ⟨letter, name, kind⟩ := e
  cases kind <;>
    simp only [entryJson, kindMembers, readJson, Value.canonical_object, Value.canonical,
      Value.ofMembers, Entries.insert, List.cons_append, List.nil_append, List.map_cons,
      List.map_nil, List.foldl_cons, List.foldl_nil, if_true, if_false, String.reduceLT,
      String.reduceEq]

theorem entryJson_isIntegral (e : Entry) : (entryJson e).isIntegral = true := by
  obtain ⟨letter, name, kind⟩ := e
  cases kind <;> rfl

theorem entryJson_nesting (e : Entry) : (entryJson e).nesting = 1 := by
  obtain ⟨letter, name, kind⟩ := e
  cases kind <;> rfl

theorem tells_asRead (e : Entry) : Tells (readJson e) (asRead e) := by
  obtain ⟨letter, name, kind⟩ := e
  cases kind with
  | cmts address => exact ⟨rfl, rfl, rfl, by rintro text ⟨⟩; rfl⟩
  | flow name => exact ⟨rfl, rfl, rfl, by rintro text ⟨⟩; rfl⟩
  | invalid => exact ⟨rfl, rfl, rfl, by rintro text ⟨⟩⟩

/-- An object that is read tells its entry exactly if that goes by the name it is read under. -/
theorem tells_iff (e : Entry) : Tells (readJson e) e ↔ asRead e = e := by
  constructor
  · intro h
    have hname := (tells_asRead e).name.symm.trans h.name
    rw [Option.some.injEq, Value.string.injEq] at hname
    exact (asRead_eq_self_iff e).mpr hname
  · intro h
    have hread := tells_asRead e
    rwa [h] at hread

theorem readJson_eq_iff (e e' : Entry) : readJson e = readJson e' ↔ asRead e = asRead e' := by
  obtain ⟨letter, name, kind⟩ := e
  obtain ⟨letter', name', kind'⟩ := e'
  cases kind <;> cases kind' <;> simp [readJson, asRead, and_comm, and_assoc]

theorem map_readJson_eq_iff (es es' : List Entry) :
    es.map readJson = es'.map readJson ↔ es.map asRead = es'.map asRead := by
  induction es generalizing es' with
  | nil => cases es' <;> simp
  | cons e es ih =>
      cases es' with
      | nil => simp
      | cons e' es' =>
          rw [List.map_cons, List.map_cons, List.map_cons, List.map_cons, List.cons.injEq,
            List.cons.injEq, readJson_eq_iff, ih]

theorem parse_catalogueText {f : Format} (hf : f ≠ .table) (es : List Entry) :
    Json.parse (catalogueText f es) = .ok (.array (es.map readJson)) := by
  have hnumbers : (Value.array (es.map entryJson)).isIntegral = true := by
    refine Value.all_array_iff.mpr ⟨rfl, ?_⟩
    intro v hv
    obtain ⟨e, -, rfl⟩ := List.mem_map.mp hv
    exact entryJson_isIntegral e
  have hitems : Value.nestingItems (es.map entryJson) ≤ 1 := by
    refine Value.nestingItems_le_iff.mpr ?_
    intro v hv
    obtain ⟨e, -, rfl⟩ := List.mem_map.mp hv
    exact Nat.le_of_eq (entryJson_nesting e)
  have hdepth : (Value.array (es.map entryJson)).nesting < Json.depthLimit :=
    Nat.lt_of_le_of_lt (Nat.succ_le_succ hitems) (by decide)
  have hcanonical : (Value.array (es.map entryJson)).canonical = .array (es.map readJson) := by
    rw [Value.canonical_array, List.map_map]
    exact congrArg Value.array (List.map_congr_left fun e _ => canonical_entryJson e)
  cases f with
  | table => exact absurd rfl hf
  | json | compact =>
      exact hcanonical ▸ parse_jsonText _ (Value.isWhole_of_isIntegral hnumbers) hdepth

/-- A catalogue in JSON is read as one object for each entry, in order. The object tells the entry
it is read as, and so the entry itself exactly if it is no flow under another name than its
fixture's. What two catalogues are read as differs exactly if their entries are read as different
ones. -/
theorem catalogue_tells (s : Store) {f : Format} (hf : f ≠ .table) :
    ∃ items, Json.parse (catalogueText f s.catalogue) = .ok (.array items) ∧
      List.Forall₂ (fun e item => Tells item (asRead e) ∧
        (Tells item e ↔ ∀ name, e.kind = .flow name → name = e.name)) s.catalogue items ∧
      ∀ (s' : Store) {f' : Format}, f' ≠ .table →
        (Json.parse (catalogueText f' s'.catalogue) = .ok (.array items) ↔
          s'.catalogue.map asRead = s.catalogue.map asRead) := by
  refine ⟨s.catalogue.map readJson, parse_catalogueText hf s.catalogue, ?_, ?_⟩
  · rw [List.forall₂_map_right_iff, List.forall₂_same]
    intro e _
    refine ⟨tells_asRead e, (tells_iff e).trans ?_⟩
    obtain ⟨letter, name, kind⟩ := e
    cases kind <;> simp [asRead]
  · intro s' f' hf'
    rw [parse_catalogueText hf' s'.catalogue, Except.ok.injEq, Value.array.injEq]
    exact map_readJson_eq_iff s'.catalogue s.catalogue

def voiceText : String := "\x7b\"flow\":\x7b\"flow-name\":\"voice-1\"\x7d\x7d"

theorem ofText_voiceText : Kind.ofText voiceText = .flow "voice-1" := by
  decide +kernel

theorem catalogue_single (name text : String) :
    (Store.ofList [(name, text)]).catalogue =
      [{ letter := "a", name, kind := Kind.ofText text }] := by
  have hletter : Fixture.letter 0 = "a" := by decide +kernel
  rw [← hletter]
  rfl

theorem catalogue_tells_voice :
    ∃ items, Json.parse (catalogueText .json (Store.ofList [("voice-1", voiceText)]).catalogue) =
        .ok (.array items) ∧
      List.Forall₂ (fun e item => Tells item e) (Store.ofList [("voice-1", voiceText)]).catalogue
        items := by
  obtain ⟨items, hparse, htells, -⟩ :=
    catalogue_tells (Store.ofList [("voice-1", voiceText)]) (f := .json) (by decide)
  refine ⟨items, hparse, ?_⟩
  rw [catalogue_single, ofText_voiceText] at htells ⊢
  obtain ⟨item, rest, ⟨-, hitem⟩, hrest, rfl⟩ := List.forall₂_cons_left_iff.mp htells
  obtain rfl := List.forall₂_nil_left_iff.mp hrest
  exact .cons (hitem.mpr (by rintro name ⟨⟩; rfl)) .nil

/-- The fixture `a` cannot be told from the fixture `b`: of both, only the flow's name is read. -/
theorem catalogue_hides_fixture :
    (Store.ofList [("a", voiceText)]).catalogue ≠ (Store.ofList [("b", voiceText)]).catalogue ∧
      ∀ f ∈ [Format.json, Format.compact], ∃ item,
        Json.parse (catalogueText f (Store.ofList [("a", voiceText)]).catalogue) =
          .ok (.array [item]) ∧
        Json.parse (catalogueText f (Store.ofList [("b", voiceText)]).catalogue) =
          .ok (.array [item]) ∧
        item.get? "name" = some (.string "voice-1") := by
  rw [catalogue_single, catalogue_single, ofText_voiceText]
  refine ⟨by simp, ?_⟩
  intro f hf
  have hjson : f ≠ .table := by
    rintro rfl
    exact absurd hf (by decide)
  exact ⟨_, parse_catalogueText hjson _, parse_catalogueText hjson _, rfl⟩

end FlowConsole.Report
