import FlowConsole.Record.Key
/-!
CMTS nodes under their two names.

A record is meant to be read member by member: first the node without the name of the module, then
the one with it. A key takes one of the two nodes and stays with it; so a member that only the other
one has is hidden, and in no other case is anything lost.
-/
namespace FlowConsole.Record

open Json

def nodeMember? (record : Value) (name key : String) : Option Value :=
  (record.get? name).bind (Value.get? key)

/-- The first of the two nodes that has a member tells it. -/
def firstNodeMember? (record : Value) (key : String) : Option Value :=
  (nodeMember? record "cmts-node" key).or (nodeMember? record "packetcable-cmts:cmts-node" key)

/-- The id that is documented: that of a node, or else one beside the nodes. -/
def firstId? (record : Value) : Option Value :=
  (firstNodeMember? record "id").or (record.get? "id")

/-- Whether a `cmts-node` without a member, be it a node or not, hides one that has it. -/
structure Hides (record : Value) (key : String) : Prop where
  present : record.get? "cmts-node" ≠ none
  lacking : nodeMember? record "cmts-node" key = none
  behind : nodeMember? record "packetcable-cmts:cmts-node" key ≠ none

section

variable {record : Value} {key : String}

theorem filter_isObject_bind_get? (v : Option Value) (key : String) :
    (v.filter Value.isObject).bind (Value.get? key) = v.bind (Value.get? key) := by
  cases v with
  | none => rfl
  | some v => cases v <;> rfl

theorem cmtsBody?_bind_get? (record : Value) (key : String) :
    (cmtsBody? record).bind (Value.get? key) =
      ((record.get? "cmts-node").or (record.get? "packetcable-cmts:cmts-node")).bind
        (Value.get? key) :=
  filter_isObject_bind_get? _ key

theorem Hides.firstNodeMember?_eq (h : Hides record key) :
    firstNodeMember? record key = nodeMember? record "packetcable-cmts:cmts-node" key := by
  simp [firstNodeMember?, h.lacking]

theorem Hides.cmtsBody?_eq (h : Hides record key) :
    (cmtsBody? record).bind (Value.get? key) = none := by
  obtain ⟨node, hnode⟩ := Option.ne_none_iff_exists'.mp h.present
  have hlacking := h.lacking
  rw [nodeMember?, hnode] at hlacking
  rw [cmtsBody?_bind_get?, hnode]
  exact hlacking

/-- Where nothing is hidden, the node that a key is made from is as good as both. -/
theorem cmtsBody?_eq_of_not_hides (h : ¬ Hides record key) :
    (cmtsBody? record).bind (Value.get? key) = firstNodeMember? record key := by
  rw [cmtsBody?_bind_get?, firstNodeMember?]
  cases hnode : record.get? "cmts-node" with
  | none => simp [nodeMember?, hnode]
  | some node =>
      have hplain : nodeMember? record "cmts-node" key = node.get? key := by
        simp [nodeMember?, hnode]
      rw [hplain, Option.some_or, Option.bind_some]
      cases hmember : node.get? key with
      | some v => rfl
      | none =>
          -- the key stays with this node; the other one must not have the member either
          cases hbehind : nodeMember? record "packetcable-cmts:cmts-node" key with
          | none => rfl
          | some v => exact absurd ⟨by simp [hnode], hplain.trans hmember, by simp [hbehind]⟩ h

theorem CmtsKey.ofRecord_eq_ok_iff {made : CmtsKey} :
    CmtsKey.ofRecord record = .ok made ↔
      (((cmtsBody? record).bind (Value.get? "id")).or (record.get? "id")).bind numericId? =
          some made.id ∧
        made.address = ((cmtsBody? record).bind (Value.get? "address")).bind Value.string? := by
  have haddress : (cmtsBody? record).bind (·.getString? "address") =
      ((cmtsBody? record).bind (Value.get? "address")).bind Value.string? := by
    rw [Option.bind_assoc]
    rfl
  obtain ⟨id, address⟩ := made
  unfold CmtsKey.ofRecord
  simp only [haddress]
  split
  · rename_i hid
    simp [hid]
  · rename_i n hid
    simp [hid, eq_comm]

end

end FlowConsole.Record
