import Mathlib.Data.List.Basic
import FlowConsole.Text.Composition
/-!
Composition keeps a colon: it is taken apart into nothing else, and composed with nothing.

The table of what is composed is large and kept as text, so it is looked at line by line.
-/
namespace FlowConsole.Text.Composition

open CharSet

/-- Whether a word of the table names a colon neither as a letter nor as the key of its group. -/
def sparesColon (word : List Char) : Bool :=
  hexNat (word.takeWhile (· != '>')) != 0x3A && hexNat word.tail != 0x3A

theorem forall_words {table : List String} {q : List Char → Bool}
    (h : ∀ line ∈ table, ((splitOn ' ' line.toList).all q) = true) :
    ∀ word ∈ words table, q word = true := by
  intro word hword
  obtain ⟨line, hline, hword⟩ := List.mem_flatMap.mp (List.mem_filter.mp hword).1
  exact List.all_eq_true.mp (h line hline) word hword

/-- The characters of a line that is written out are at hand without decoding its bytes. -/
theorem forall_lines_cons {q : List Char → Bool} {l : List Char} {rest : List String}
    (hl : ((splitOn ' ' l).all q) = true)
    (hrest : ∀ line ∈ rest, ((splitOn ' ' line.toList).all q) = true) :
    ∀ line ∈ String.ofList l :: rest, ((splitOn ' ' line.toList).all q) = true := by
  rw [List.forall_mem_cons, String.toList_ofList]
  exact ⟨hl, hrest⟩

theorem keyed_sparesColon {table : List String}
    (h : ∀ word ∈ words table, sparesColon word = true) :
    ∀ w ∈ keyed table, hexNat (w.2.takeWhile (· != '>')) ≠ 0x3A ∧ w.1 ≠ 0x3A := by
  simp only [sparesColon, Bool.and_eq_true, bne_iff_ne] at h
  intro w hw
  unfold keyed at hw
  -- The key of the group that is being read is no colon, nor is anything that was read so far.
  refine (List.foldlRecOn (motive := fun acc : Nat × List (Nat × List Char) => acc.1 ≠ 0x3A ∧
    ∀ w ∈ acc.2, hexNat (w.2.takeWhile (· != '>')) ≠ 0x3A ∧ w.1 ≠ 0x3A) _ _ ?_ ?_).2 w
      (List.mem_reverse.mp hw)
  · exact ⟨by decide, by simp⟩
  · rintro acc ⟨hkey, hacc⟩ word hmem
    have hword := h word hmem
    split
    · exact ⟨hword.2, hacc⟩
    · exact ⟨hkey, List.forall_mem_cons.mpr ⟨⟨hword.1, hkey⟩, hacc⟩⟩

theorem pairs_sparesColon : ∀ p ∈ pairs, p.1 ≠ 0x3A ∧ p.2.1 ≠ 0x3A := by
  intro p hp
  unfold pairs at hp
  obtain ⟨w, hw, rfl⟩ := List.mem_map.mp hp
  refine keyed_sparesColon (forall_words ?_) w hw
  dsimp only
  repeat refine forall_lines_cons (by decide +kernel) ?_
  exact List.forall_mem_nil _

theorem compose?_colon {a b : Char} (h : a = ':' ∨ b = ':') : compose? a b = none := by
  have hcolon : ':'.toNat = 0x3A := rfl
  have hlow : a.toNat = 0x3A ∨ b.toNat = 0x3A := by
    rcases h with rfl | rfl
    · exact .inl hcolon
    · exact .inr hcolon
  have hfind : (pairs.find? fun p => p.1 == a.toNat && p.2.1 == b.toNat) = none := by
    apply List.find?_eq_none.mpr
    intro p hp
    have hne := pairs_sparesColon p hp
    simp only [Bool.and_eq_true, beq_iff_eq]
    omega
  have hjamo : ¬ (0x1100 ≤ a.toNat ∧ a.toNat ≤ 0x1112 ∧ 0x1161 ≤ b.toNat ∧ b.toNat ≤ 0x1175) := by
    omega
  have hsyllable : ¬ (0xAC00 ≤ a.toNat ∧ a.toNat ≤ 0xD7A3 ∧ (a.toNat - 0xAC00) % 28 = 0 ∧
      0x11A8 ≤ b.toNat ∧ b.toNat ≤ 0x11C2) := by
    omega
  unfold compose?
  dsimp only
  rw [if_neg hjamo, if_neg hsyllable, hfind, Option.map_none]

/-! ## Marks -/

theorem mem_insertMark (c d : Char) (marks : List Char) :
    d ∈ insertMark c marks ↔ d = c ∨ d ∈ marks := by
  induction marks with
  | nil => simp [insertMark]
  | cons e marks ih =>
      rw [insertMark]
      split
      · simp only [List.mem_cons, ih]
        exact or_left_comm
      · simp only [List.mem_cons]

theorem mem_foldl_insertMark (d : Char) (parts marks : List Char) :
    d ∈ parts.foldl (fun acc c => insertMark c acc) marks ↔ d ∈ parts ∨ d ∈ marks := by
  induction parts generalizing marks with
  | nil => simp
  | cons c parts ih =>
      rw [List.foldl_cons, ih, mem_insertMark, List.mem_cons]
      exact or_left_comm.trans or_assoc.symm

theorem mem_composeFrom_colon {letter : Option Char} {marks s : List Char}
    (hnone : letter = none → marks = [])
    (h : letter = some ':' ∨ ':' ∈ marks ∨ ':' ∈ s) : ':' ∈ composeFrom letter marks s := by
  induction s generalizing letter marks with
  | nil =>
      rw [composeFrom, List.mem_append, Option.mem_toList, List.mem_reverse]
      simpa using h
  | cons c rest ih =>
      rw [List.mem_cons] at h
      rw [composeFrom.eq_def]
      cases letter with
      | none =>
          rcases h with h | h | rfl | h
          · simp at h
          · simp [hnone rfl] at h
          · exact ih (by simp) (.inl rfl)
          · exact ih (by simp) (.inr (.inr h))
      | some a =>
          dsimp only
          split
          · -- Whatever was composed, neither part of it was a colon.
            rename_i b hcompose
            have hne : ¬ (a = ':' ∨ c = ':') := by
              intro hcolon
              rw [compose?_colon hcolon, ite_self] at hcompose
              simp at hcompose
            rcases h with h | h | h | h
            · exact absurd (.inl (Option.some.inj h)) hne
            · exact ih (by simp) (.inr (.inl h))
            · exact absurd (.inr h.symm) hne
            · exact ih (by simp) (.inr (.inr h))
          · split
            · rw [List.mem_append, List.mem_cons, List.mem_reverse]
              rcases h with h | h | rfl | h
              · exact .inl (.inl (Option.some.inj h).symm)
              · exact .inl (.inr h)
              · exact .inr (ih (by simp) (.inl rfl))
              · exact .inr (ih (by simp) (.inr (.inr h)))
            · rcases h with h | h | rfl | h
              · exact ih (by simp) (.inl h)
              · exact ih (by simp) (.inr (.inl (List.mem_cons_of_mem c h)))
              · exact ih (by simp) (.inr (.inl List.mem_cons_self))
              · exact ih (by simp) (.inr (.inr h))

theorem mem_normalise_colon {s : List Char} (h : ':' ∈ s) : ':' ∈ normalise s := by
  unfold normalise
  split
  · exact h
  · have hparts : ':' ∈ s.flatMap fun c => (decompose 4 c.toNat).map Char.ofNat :=
      List.mem_flatMap.mpr ⟨':', h, by decide⟩
    apply mem_composeFrom_colon (fun _ => rfl)
    exact .inr (.inr (List.mem_reverse.mpr ((mem_foldl_insertMark _ _ _).mpr (.inl hparts))))

end FlowConsole.Text.Composition
