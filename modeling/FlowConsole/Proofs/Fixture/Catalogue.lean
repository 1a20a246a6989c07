import FlowConsole.Harness.Basic
import FlowConsole.Proofs.Fixture.Store
import FlowConsole.Proofs.Json.RoundTrip
import FlowConsole.Proofs.Record.CmtsNode
/-!
Fixtures as the catalogue shows them, and the records that requests are made from.

The catalogue looks at a record in its own way: it shows the first address under either name of a
CMTS node. A key takes one node and stays with it, so it comes without the address where a
`cmts-node` that has none hides one that has.
-/
namespace FlowConsole

namespace Fixture

theorem Kind.exists_record_of_ofText {text : String} {kind : Kind} (h : Kind.ofText text = kind)
    (hkind : kind ≠ .invalid) : ∃ record, Json.parse text = .ok record ∧ ofRecord record = kind := by
  unfold Kind.ofText at h
  split at h
  · rename_i record hparse
    exact ⟨record, hparse, h⟩
  · exact absurd h.symm hkind

end Fixture

open Fixture (Kind)
open Json (Value)
open Record

theorem Harness.record_of_parse {h : Harness} {name text : String} {record : Value}
    (hget : h.fixtures.get? name = some text) (hparse : Json.parse text = .ok record) :
    h.record name = .ok record := by
  unfold Harness.record Harness.fixtureRecord
  simp only [hget, hparse, Option.isSome_some, if_true]
  rfl

/-- What is shown of a fixture is the kind of the record that its name stands for. -/
theorem Harness.record_of_mem_catalogue {h : Harness} {e : Fixture.Entry}
    (hmem : e ∈ h.fixtures.catalogue) (hkind : e.kind ≠ .invalid) :
    ∃ record, h.record e.name = .ok record ∧ Kind.ofRecord record = e.kind := by
  obtain ⟨text, hget, htext⟩ := Fixture.get?_of_mem_catalogue hmem
  obtain ⟨record, hparse, hrecord⟩ := Kind.exists_record_of_ofText htext.symm hkind
  exact ⟨record, Harness.record_of_parse hget hparse, hrecord⟩

namespace Fixture

/-! ## Addresses of CMTS nodes -/

/-- Whether the key of a record has the address that the record is shown under, if that is a text. -/
def KeyedAsShown (record : Value) : Prop :=
  ∀ shown text key, Kind.ofRecord record = .cmts shown →
    firstNodeMember? record "address" = some (.string text) →
    CmtsKey.ofRecord record = .ok key → key.address = some shown

/-- Whether the text that is the first address of a record is lost to its key. -/
structure LosesAddress (record : Value) : Prop where
  hides : Hides record "address"
  text : ∃ text, firstNodeMember? record "address" = some (.string text)
  keyed : ∃ key, CmtsKey.ofRecord record = .ok key

theorem Kind.ofRecord_of_address {record v : Value}
    (h : firstNodeMember? record "address" = some v) : Kind.ofRecord record = .cmts (scalar v) := by
  unfold firstNodeMember? nodeMember? at h
  unfold Kind.ofRecord
  simp only [h]

theorem keyedAsShown_iff (record : Value) : KeyedAsShown record ↔ ¬ LosesAddress record := by
  constructor
  · rintro h ⟨hhides, ⟨text, htext⟩, ⟨key, hkey⟩⟩
    have haddress := h _ text key (Kind.ofRecord_of_address htext) htext hkey
    -- the key of such a record has no address at all
    have hlost := (CmtsKey.ofRecord_eq_ok_iff.mp hkey).2
    rw [hhides.cmtsBody?_eq] at hlost
    rw [hlost] at haddress
    cases haddress
  · intro h shown text key hshown htext hkey
    have hhides : ¬ Hides record "address" := fun hhides => h ⟨hhides, ⟨text, htext⟩, ⟨key, hkey⟩⟩
    have haddress := (CmtsKey.ofRecord_eq_ok_iff.mp hkey).2
    rw [cmtsBody?_eq_of_not_hides hhides, htext] at haddress
    obtain rfl : text = shown := by
      rw [Kind.ofRecord_of_address htext] at hshown
      exact Kind.cmts.inj hshown
    exact haddress

/-- A record is keyed by the address it is shown under, exactly if that is not lost. So whatever the
catalogue shows under an address stands for a record of that kind, and its key has the address if
it is a text that is not lost. -/
theorem catalogue_shows_keyed_address (h : Harness) :
    (∀ record, KeyedAsShown record ↔ ¬ LosesAddress record) ∧
    ∀ e ∈ h.fixtures.catalogue, ∀ shown, e.kind = .cmts shown →
      ∃ record, h.record e.name = .ok record ∧ Kind.ofRecord record = .cmts shown ∧
        ∀ text key, firstNodeMember? record "address" = some (.string text) →
          CmtsKey.ofRecord record = .ok key → ¬ LosesAddress record →
          key.address = some shown := by
  refine ⟨keyedAsShown_iff, ?_⟩
  intro e he shown hkind
  obtain ⟨record, hrecord, hshown⟩ := Harness.record_of_mem_catalogue he (by simp [hkind])
  rw [hkind] at hshown
  refine ⟨record, hrecord, hshown, ?_⟩
  intro text key htext hkey hkept
  exact (keyedAsShown_iff record).mpr hkept shown text key hshown htext hkey

theorem catalogue_shows_keyed_cmts1 :
    let h : Harness :=
      { fixtures := .ofList [("voice", Builtin.cmts1.record.compact)], node := 1, table := 0 }
    ∃ record key, h.record "voice" = .ok record ∧ Kind.ofRecord record = .cmts "10.200.90.3" ∧
      CmtsKey.ofRecord record = .ok key ∧ key.address = some "10.200.90.3" := by
  have hparse : Json.parse Builtin.cmts1.record.compact = .ok Builtin.cmts1.record :=
    Value.parse_compact rfl (by decide)
  generalize Builtin.cmts1.record.compact = text at hparse ⊢
  intro h
  have hkind : Kind.ofText text = .cmts "10.200.90.3" := by
    rw [Kind.ofText, hparse]
    rfl
  have hfixture : h.record "voice" = .ok Builtin.cmts1.record :=
    Harness.record_of_parse List.lookup_cons_self hparse
  have hmem : ⟨letter 0, "voice", .ofText text⟩ ∈ h.fixtures.catalogue := by
    rw [Store.catalogue_ofList_singleton]
    exact List.mem_cons_self
  obtain ⟨record, hrecord, hshown, haddress⟩ :=
    (catalogue_shows_keyed_address h).2 _ hmem _ hkind
  obtain rfl : Builtin.cmts1.record = record := Except.ok.inj (hfixture.symm.trans hrecord)
  have hkept : ¬ LosesAddress Builtin.cmts1.record := fun hloses => nomatch hloses.hides.lacking
  have hkey : CmtsKey.ofRecord Builtin.cmts1.record =
      .ok { id := 1, address := some "10.200.90.3" } := rfl
  exact ⟨_, _, hrecord, hshown, hkey, haddress "10.200.90.3" _ rfl hkey hkept⟩

/-- A node with an address behind one that is no node, and an id beside them. -/
def maskedAddress : Value :=
  .object [("cmts-node", .null), ("id", .ofNat 2),
    ("packetcable-cmts:cmts-node", .object [("address", .string "10.200.90.4")])]

theorem maskedAddress_lost :
    Kind.ofRecord maskedAddress = .cmts "10.200.90.4" ∧
      CmtsKey.ofRecord maskedAddress = .ok { id := 2, address := none } ∧
      ¬ KeyedAsShown maskedAddress := by
  have hshown : Kind.ofRecord maskedAddress = .cmts "10.200.90.4" := rfl
  have hkey : CmtsKey.ofRecord maskedAddress = .ok { id := 2, address := none } := rfl
  refine ⟨hshown, hkey, fun h => ?_⟩
  exact nomatch h "10.200.90.4" "10.200.90.4" _ hshown rfl hkey

end Fixture

end FlowConsole
