import FlowConsole.Proofs.Fixture.Catalogue
import FlowConsole.Proofs.Record.Envelope
import FlowConsole.Proofs.Record.FlowKey
import FlowConsole.Report.Text
/-!
Names of flows, as the catalogue shows them and as removals report them.

The catalogue knows one way to the name of a flow. A key looks for the flow in several envelopes, and
for its name under two members. Where the one way leads to a text, all the others do as well.
-/
namespace FlowConsole

open Json (Value)

namespace Record

/-- The keys that a record is given: standing alone, or out of a listing. -/
inductive IsKeyOf (record : Value) (key : FlowKey) : Prop
  | alone (h : FlowKey.ofRecord record = .ok key)
  | listed (node table : Nat) (h : FlowKey.ofListed record node table = .ok key)

/-- Whether a record is a flow under `flow` that goes by a name. -/
structure GoesBy (record : Value) (name : String) : Prop where
  body : ∃ flow, record.get? "flow" = some (.object flow) ∧ flowBody record = .object flow
  named : ∀ key, IsKeyOf record key → key.name = some name ∧ key.label = name
  /-- The name will do in a listing, whatever else is missing. -/
  listed : ∀ node table, ∃ key, FlowKey.ofListed record node table = .ok key

section

variable {record : Value}

theorem IsKeyOf.name_eq {key : FlowKey} (h : IsKeyOf record key) : key.name = ownName? record := by
  cases h with
  | alone h => exact (FlowKey.ofRecord_eq_ok_iff.mp h).2.2.2
  | listed node table h =>
      rw [FlowKey.ofListed_eq_ok_iff, FlowKey.ofListed_toOption] at h
      obtain ⟨id, -, rfl⟩ := Option.map_eq_some_iff.mp h
      rfl

theorem exists_object_of_get? {v w : Value} {key : String} (h : v.get? key = some w) :
    ∃ members, v = .object members := by
  cases v with
  | object members => exact ⟨members, rfl⟩
  | _ => cases h

theorem goesBy_of_flowName {name : String}
    (h : (record.get? "flow").bind (Value.get? "flow-name") = some (.string name)) :
    GoesBy record name := by
  obtain ⟨v, hv, hmember⟩ := Option.bind_eq_some_iff.mp h
  obtain ⟨flow, rfl⟩ := exists_object_of_get? hmember
  have hbody : flowBody record = .object flow := flowBody_of_holds (.alone hv)
  have hname : ownName? record = some name := by
    simp [ownName?, hbody, flowName?, Value.getString?, hmember, Value.string?]
  refine ⟨⟨flow, hv, hbody⟩, ?named, ?listed⟩
  case named =>
    intro key hkey
    have hkeyed : key.name = some name := hkey.name_eq.trans hname
    exact ⟨hkeyed, by rw [FlowKey.label, hkeyed, Option.getD_some]⟩
  case listed =>
    intro node table
    obtain ⟨id, hid⟩ : ∃ id, (ownId? record).or (ownName? record) = some id := by
      rw [hname]
      cases ownId? record with
      | none => exact ⟨name, rfl⟩
      | some id => exact ⟨id, rfl⟩
    refine ⟨{ node, table, id, name := ownName? record }, ?_⟩
    rw [FlowKey.ofListed_eq_ok_iff, FlowKey.ofListed_toOption, hid, Option.map_some]

end

end Record

open Record

namespace Fixture

theorem Kind.flowName_of_ofRecord {record v : Value} {shown : String}
    (h : Kind.ofRecord record = .flow shown)
    (hv : (record.get? "flow").bind (Value.get? "flow-name") = some v) : shown = scalar v := by
  dsimp only [Kind.ofRecord] at h
  split at h
  · cases h
  · rw [hv] at h
    exact (Kind.flow.inj h).symm

/-- A record that is shown as a flow by a name that is a text goes by it. So a removal of what stands
behind an entry of the catalogue is reported by the name in that entry. -/
theorem catalogue_names_flows :
    (∀ record shown text, Kind.ofRecord record = .flow shown →
      (record.get? "flow").bind (Value.get? "flow-name") = some (.string text) →
      GoesBy record shown) ∧
    ∀ h : Harness, ∀ e ∈ h.fixtures.catalogue, ∀ shown, e.kind = .flow shown →
      Report.entryLine e = s!"{e.letter}. {e.name} - flow {shown}" ∧
      ∃ record, h.record e.name = .ok record ∧ Kind.ofRecord record = .flow shown ∧
        ∀ text, (record.get? "flow").bind (Value.get? "flow-name") = some (.string text) →
          ∀ removal color, IsKeyOf record removal.key →
            Report.removalLine color removal =
              s!"Removing {shown} ... {Report.outcomeLine color removal.outcome}" := by
  have hgoes : ∀ record shown text, Kind.ofRecord record = .flow shown →
      (record.get? "flow").bind (Value.get? "flow-name") = some (.string text) →
      GoesBy record shown := by
    intro record shown text hshown htext
    obtain rfl : shown = text := Kind.flowName_of_ofRecord hshown htext
    exact goesBy_of_flowName htext
  refine ⟨hgoes, ?_⟩
  intro h e he shown hkind
  obtain ⟨record, hrecord, hshown⟩ := Harness.record_of_mem_catalogue he (by simp [hkind])
  rw [hkind] at hshown
  refine ⟨?line, record, hrecord, hshown, ?removed⟩
  case line =>
    apply String.toList_inj.mp
    simp [Report.entryLine, hkind, Kind.detail?, Kind.label, toString]
  case removed =>
    intro text htext removal color hkey
    rw [Report.removalLine, ((hgoes record shown text hshown htext).named _ hkey).2]

/-- A flow beside a CMTS node without an address and beside a flow under the name of the module, with
a second name of its own. -/
def voiceBeside : Value :=
  .object [("cmts-node", .object [("id", .ofNat 1)]),
    ("flow", .object [("flow-name", .string "voice"), ("id", .string "7"),
      ("name", .string "other"), ("node", .string "openflow:3")]),
    ("flow-node-inventory:flow", .array [.object [("name", .string "behind")]])]

theorem catalogue_names_flows_voice :
    let h : Harness := { fixtures := .ofList [("a", voiceBeside.compact)], node := 1, table := 0 }
    let key : FlowKey := { node := 3, table := 0, id := "7", name := some "voice" }
    ∃ e ∈ h.fixtures.catalogue, ∃ record, h.record e.name = .ok record ∧
      FlowKey.ofRecord record = .ok key ∧ GoesBy record "voice" ∧
      Report.entryLine e = s!"{e.letter}. {e.name} - flow {key.label}" ∧ ∀ outcome,
        Report.removalLine false { key, outcome } =
          s!"Removing {key.label} ... {Report.outcomeLine false outcome}" := by
  have hparse : Json.parse voiceBeside.compact = .ok voiceBeside :=
    Value.parse_compact (v := voiceBeside) rfl (by decide)
  generalize voiceBeside.compact = text at hparse ⊢
  intro h key
  have hkind : Kind.ofText text = .flow "voice" := by
    rw [Kind.ofText, hparse]
    rfl
  have hfixture : h.record "a" = .ok voiceBeside :=
    Harness.record_of_parse List.lookup_cons_self hparse
  have hmem : ⟨letter 0, "a", .ofText text⟩ ∈ h.fixtures.catalogue := by
    rw [Store.catalogue_ofList_singleton]
    exact List.mem_cons_self
  obtain ⟨hgoes, hentries⟩ := catalogue_names_flows
  obtain ⟨hline, record, hrecord, hshown, hremoved⟩ :=
    hentries h _ hmem "voice" hkind
  obtain rfl : voiceBeside = record := Except.ok.inj (hfixture.symm.trans hrecord)
  have hkey : FlowKey.ofRecord voiceBeside = .ok key := rfl
  refine ⟨_, hmem, voiceBeside, hrecord, hkey, hgoes _ _ "voice" hshown rfl, hline, ?_⟩
  intro outcome
  exact hremoved "voice" rfl { key, outcome } false (.alone hkey)

end Fixture

end FlowConsole
