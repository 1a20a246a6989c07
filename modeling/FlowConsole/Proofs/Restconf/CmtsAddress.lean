import FlowConsole.Proofs.Record.CmtsNode
import FlowConsole.Proofs.Restconf.Session
/-!
Which CMTS a record configures.

The documented id of a record is the first of three: that of the node, that of the node under the
name of the module, and one beside the nodes. Changes go to the CMTS with that id, unless a
`cmts-node` without an id stands in front of a node that has one. Then the one in the middle is
passed over, and it takes an id that is read the same to make up for that.
-/
namespace FlowConsole.Restconf

open Record
open Json (Value)

/-- Whether the changes made with a record go to the CMTS with the first id that it has. -/
structure GoesByFirstId (record : Value) : Prop where
  keyed : ∀ n, (∃ key, CmtsKey.ofRecord record = .ok key ∧ key.id = n) ↔
    ∃ v, firstId? record = some v ∧ numericId? v = some n
  added : ∀ v n, firstId? record = some v → numericId? v = some n → ∀ s : Session,
    Session.addCmts record s =
      ((s.exchange .put (Path.cmts n) (some record)).1.map (Outcome.ofResponse .cmtsAdd),
        (s.exchange .put (Path.cmts n) (some record)).2)
  removed : ∀ v n, firstId? record = some v → numericId? v = some n → ∀ s : Session,
    Session.removeCmts record s =
      ((s.exchange .delete (Path.cmts n) none).1.map (Outcome.ofResponse .cmtsDelete),
        (s.exchange .delete (Path.cmts n) none).2)

section

variable {record : Value}

theorem exists_key_iff (record : Value) (n : Nat) :
    (∃ key, CmtsKey.ofRecord record = .ok key ∧ key.id = n) ↔
      (((cmtsBody? record).bind (Value.get? "id")).or (record.get? "id")).bind numericId? =
        some n := by
  constructor
  · rintro ⟨key, hkey, rfl⟩
    exact (CmtsKey.ofRecord_eq_ok_iff.mp hkey).1
  · intro hid
    refine ⟨⟨n, ((cmtsBody? record).bind (Value.get? "address")).bind Value.string?⟩, ?_, rfl⟩
    exact CmtsKey.ofRecord_eq_ok_iff.mpr ⟨hid, rfl⟩

theorem goesByFirstId_of_bind_eq
    (h : (((cmtsBody? record).bind (Value.get? "id")).or (record.get? "id")).bind numericId? =
      (firstId? record).bind numericId?) : GoesByFirstId record := by
  have hkeyed : ∀ n, (∃ key, CmtsKey.ofRecord record = .ok key ∧ key.id = n) ↔
      ∃ v, firstId? record = some v ∧ numericId? v = some n := by
    intro n
    rw [exists_key_iff, h, Option.bind_eq_some_iff]
  refine ⟨hkeyed, ?added, ?removed⟩
  case added =>
    intro v n hv hn s
    obtain ⟨key, hkey, rfl⟩ := (hkeyed n).mpr ⟨v, hv, hn⟩
    exact Session.addCmts_apply hkey s
  case removed =>
    intro v n hv hn s
    obtain ⟨key, hkey, rfl⟩ := (hkeyed n).mpr ⟨v, hv, hn⟩
    exact Session.removeCmts_apply hkey s

theorem GoesByFirstId.bind_eq (h : GoesByFirstId record) :
    (((cmtsBody? record).bind (Value.get? "id")).or (record.get? "id")).bind numericId? =
      (firstId? record).bind numericId? := by
  apply Option.ext
  intro n
  rw [← exists_key_iff, h.keyed, Option.bind_eq_some_iff]

end

/-- The changes made with a record go to the CMTS with the first id that it has, exactly if no
`cmts-node` without an id hides one that is read otherwise than the id beside the nodes. -/
theorem goesByFirstId_iff (record : Value) :
    GoesByFirstId record ↔
      (Hides record "id" →
        (nodeMember? record "packetcable-cmts:cmts-node" "id").bind numericId? =
          (record.get? "id").bind numericId?) := by
  have hbind : GoesByFirstId record ↔
      (((cmtsBody? record).bind (Value.get? "id")).or (record.get? "id")).bind numericId? =
        (firstId? record).bind numericId? :=
    ⟨GoesByFirstId.bind_eq, goesByFirstId_of_bind_eq⟩
  rw [hbind]
  -- where an id is hidden, the key is made from the one beside the nodes
  by_cases hhides : Hides record "id"
  · obtain ⟨v, hv⟩ := Option.ne_none_iff_exists'.mp hhides.behind
    simp [hhides, hhides.cmtsBody?_eq, firstId?, hhides.firstNodeMember?_eq, hv, eq_comm]
  · simp [hhides, cmtsBody?_eq_of_not_hides hhides, firstId?]

/-- A node with the id 2 behind one that is no node. -/
def maskedNode : Value :=
  .object [("cmts-node", .null), ("packetcable-cmts:cmts-node", .object [("id", .ofNat 2)])]

theorem maskedNode_has_no_key :
    (∃ v, firstId? maskedNode = some v ∧ numericId? v = some 2) ∧
      CmtsKey.ofRecord maskedNode = .error .noCmtsId ∧ ¬ GoesByFirstId maskedNode := by
  have hfirst : ∃ v, firstId? maskedNode = some v ∧ numericId? v = some 2 := ⟨.ofNat 2, rfl, rfl⟩
  have hkey : CmtsKey.ofRecord maskedNode = .error .noCmtsId := rfl
  refine ⟨hfirst, hkey, fun h => ?_⟩
  obtain ⟨key, hok, -⟩ := (h.keyed 2).mpr hfirst
  exact nomatch hkey.symm.trans hok

end FlowConsole.Restconf
