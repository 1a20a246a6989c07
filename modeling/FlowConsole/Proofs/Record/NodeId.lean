import FlowConsole.Proofs.Record.NumericId
/-!
How a record names its node.

A node has a number. It is meant to be given as a number, as a text of it, or as such a text behind
`openflow:`. What is read goes further: of a text only that counts which is behind its last colon,
so whatever stands in front of a colon passes for the name of a switch.
-/
namespace FlowConsole.Record

open Json Text

/-- Whether a value names a node in one of the documented ways. -/
inductive Names (n : Nat) : Value → Prop
  | number : Names n (.ofNat n)
  | text {s : String} (hcolon : ':' ∉ s.toList) (h : IsNumeral n s.toList) : Names n (.string s)
  | openflow {s : String} {t : List Char} (hs : s.toList = "openflow".toList ++ ':' :: t)
      (h : IsNumeral n t) : Names n (.string s)

/-- Whether a text with something else than `openflow` in front of a colon passes for the name of a
node, by the number behind the colon. -/
inductive PassesFor (n : Nat) : Value → Prop
  | text {s : String} {front t : List Char} (hs : s.toList = front ++ ':' :: t)
      (hfront : front ≠ "openflow".toList) (h : IsNumeral n t) : PassesFor n (.string s)

theorem isNumericId_iff_names {v : Value} {n : Nat} :
    IsNumericId n v ↔ n < 2 ^ 64 ∧ (Names n v ∨ PassesFor n v) := by
  constructor
  · intro h
    cases h with
    | integer hn => exact ⟨hn, .inl .number⟩
    | @text s part hpart hnumeral hn =>
        refine ⟨hn, ?_⟩
        generalize hs : s.toList = t at hpart
        cases hpart with
        | whole hcolon =>
            subst hs
            exact .inl (.text hcolon hnumeral)
        | @behind front hcolon =>
            by_cases hfront : front = "openflow".toList
            · subst hfront
              exact .inl (.openflow hs hnumeral)
            · exact .inr (.text hs hfront hnumeral)
  · rintro ⟨hn, hnames | hpasses⟩
    · cases hnames with
      | number => exact .integer hn
      | text hcolon hnumeral => exact .text (.whole hcolon) hnumeral hn
      | openflow hs hnumeral =>
          exact .text (hs ▸ .behind (colon_not_mem_of_isNumeral hnumeral)) hnumeral hn
    · cases hpasses with
      | text hs _ hnumeral =>
          exact .text (hs ▸ .behind (colon_not_mem_of_isNumeral hnumeral)) hnumeral hn

/-- What is read as the number of a node: the documented names, and all that pass for one. -/
theorem numericId?_eq_some_iff {v : Value} {n : Nat} :
    numericId? v = some n ↔ n < 0x10000000000000000 ∧ (Names n v ∨ PassesFor n v) :=
  numericId?_eq_some_iff_isNumericId.trans isNumericId_iff_names

theorem PassesFor.not_names {n m : Nat} {v : Value} (h : PassesFor n v) : ¬ Names m v := by
  cases h with
  | text hs hfront h =>
      intro hnames
      cases hnames with
      | text hcolon _ => exact hcolon (by simp [hs])
      | openflow hs' h' =>
          exact hfront (append_last_inj (colon_not_mem_of_isNumeral h)
            (colon_not_mem_of_isNumeral h') (hs.symm.trans hs')).1

/-- What a flow gives as its node: `node.id`, or `node` itself if that has no `id`. -/
def nodeName? (record : Value) : Option Value :=
  ((flowBody record).get? "node").map fun node => (node.get? "id").getD node

theorem nodeId?_eq_bind (record : Value) :
    nodeId? (flowBody record) = (nodeName? record).bind numericId? := by
  rw [nodeName?, Option.bind_map]
  rfl

end FlowConsole.Record
