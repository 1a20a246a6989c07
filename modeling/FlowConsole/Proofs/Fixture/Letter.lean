import FlowConsole.Proofs.Fixture.Numeral
import FlowConsole.Proofs.Fixture.Store
import FlowConsole.Proofs.Text.Split
/-!
Choosing a fixture by its letter.

No two positions have one letter, and no letter holds a blank. So a text chooses at most one entry
of a catalogue: the one whose letter it is, blanks around it apart.
-/
namespace FlowConsole

namespace Fixture

open Text

theorem isBlank_of_mem_letterChars {i : Nat} {c : Char} (h : c ∈ letterChars i) :
    isBlank c = false := by
  have hbounds := isLower_iff.mp (isLower_of_mem_letterChars h)
  simp only [isBlank, Bool.or_eq_false_iff, Bool.and_eq_false_iff, decide_eq_false_iff_not,
    beq_eq_false_iff_ne]
  omega

/-! ## Choices -/

/-- Whether a text is a letter with blanks around it. -/
def IsAround (letter wanted : String) : Prop :=
  ∃ before after, wanted.toList = before ++ letter.toList ++ after ∧
    (∀ c ∈ before, isBlank c = true) ∧ ∀ c ∈ after, isBlank c = true

theorem isAround_letter_iff {i : Nat} {wanted : String} :
    IsAround (letter i) wanted ↔ letter i = trim wanted := by
  rw [letter_eq, trim, String.ofList_inj]
  constructor
  · rintro ⟨before, after, hwanted, hbefore, hafter⟩
    rw [hwanted, String.toList_ofList]
    exact (trimChars_append hbefore (fun c => isBlank_of_mem_letterChars) hafter).symm
  · intro h
    obtain ⟨before, after, hwanted, hbefore, hafter⟩ := exists_append_trimChars wanted.toList
    rw [← h] at hwanted
    exact ⟨before, after, by rwa [String.toList_ofList], hbefore, hafter⟩

/-- What a text chooses: the fixture of the entry that it is the letter of, or nothing. -/
inductive Chooses (s : Store) (wanted : String) : Option (String × String) → Prop
  | entry {e : Entry} {text : String} (hshown : e ∈ s.catalogue)
      (hstored : s.get? e.name = some text) (hletter : IsAround e.letter wanted) :
      Chooses s wanted (some (e.name, text))
  | nothing (h : ∀ e ∈ s.catalogue, e.letter ≠ trim wanted) : Chooses s wanted none

namespace Store

theorem selectFrom?_eq_some_iff {wanted : String} {i : Nat} {entries : List (String × String)}
    {f : String × String} :
    selectFrom? wanted i entries = some f ↔
      ∃ k, letter (i + k) = wanted ∧ entries[k]? = some f := by
  induction entries generalizing i with
  | nil => simp [selectFrom?]
  | cons entry rest ih =>
      rw [selectFrom?]
      by_cases hwanted : letter i = wanted
      · rw [if_pos hwanted]
        constructor
        · exact fun h => ⟨0, hwanted, h⟩
        · rintro ⟨k, hk, hf⟩
          obtain rfl : k = 0 := by
            have := letter_injective (hk.trans hwanted.symm)
            omega
          exact hf
      · rw [if_neg hwanted, ih]
        constructor
        · rintro ⟨k, hk, hf⟩
          exact ⟨k + 1, by rwa [← Nat.add_assoc, Nat.add_right_comm], hf⟩
        · rintro ⟨k, hk, hf⟩
          cases k with
          | zero => exact absurd hk hwanted
          | succ k => exact ⟨k, by rwa [Nat.add_right_comm, Nat.add_assoc], hf⟩

theorem select?_eq_some_iff {s : Store} {wanted : String} {f : String × String} :
    s.select? wanted = some f ↔ ∃ i, letter i = trim wanted ∧ s.entries[i]? = some f := by
  rw [select?, selectFrom?_eq_some_iff]
  simp only [Nat.zero_add]

theorem map_letter_catalogue (s : Store) :
    s.catalogue.map Entry.letter = (List.range s.size).map letter := by
  refine List.ext_getElem? fun i => ?_
  rw [List.getElem?_map, List.getElem?_map, getElem?_catalogue, Option.map_map, size]
  by_cases hi : i < s.entries.length
  · rw [List.getElem?_range hi, List.getElem?_eq_getElem hi]
    rfl
  · rw [List.getElem?_eq_none (by simpa using hi), List.getElem?_eq_none (by simpa using hi)]
    rfl

theorem nodup_letters (s : Store) : (s.catalogue.map Entry.letter).Nodup := by
  rw [map_letter_catalogue]
  exact List.nodup_range.map letter_injective

theorem isAround_of_mem_catalogue {s : Store} {e : Entry} (h : e ∈ s.catalogue) {wanted : String} :
    IsAround e.letter wanted ↔ e.letter = trim wanted := by
  have hmem := List.mem_map_of_mem (f := Entry.letter) h
  rw [map_letter_catalogue] at hmem
  obtain ⟨i, -, hi⟩ := List.mem_map.mp hmem
  rw [← hi]
  exact isAround_letter_iff

section

variable {s : Store} {wanted : String}

theorem select?_eq_some_iff_entry {name text : String} :
    s.select? wanted = some (name, text) ↔
      ∃ e ∈ s.catalogue, e.letter = trim wanted ∧ e.name = name ∧ s.get? e.name = some text := by
  rw [select?_eq_some_iff]
  constructor
  · rintro ⟨i, hletter, hfixture⟩
    have hshown : s.catalogue[i]? = some ⟨letter i, name, .ofText text⟩ := by
      rw [getElem?_catalogue, hfixture, Option.map_some]
    have hstored := s.sorted.lookup_eq_some_iff.mpr (List.mem_of_getElem? hfixture)
    exact ⟨_, List.mem_of_getElem? hshown, hletter, rfl, hstored⟩
  · rintro ⟨e, he, hletter, rfl, hstored⟩
    obtain ⟨i, hi⟩ := List.mem_iff_getElem?.mp he
    obtain ⟨hposition, text', hfixture, hstored', -⟩ := exists_fixture_of_catalogue hi
    obtain rfl : text' = text := Option.some.inj (hstored'.symm.trans hstored)
    exact ⟨i, hposition.symm.trans hletter, hfixture⟩

theorem select?_eq_iff_chooses {chosen : Option (String × String)} :
    s.select? wanted = chosen ↔ Chooses s wanted chosen := by
  constructor
  · intro h
    cases chosen with
    | none =>
        refine .nothing fun e he hletter => ?_
        obtain ⟨text, hstored, -⟩ := get?_of_mem_catalogue he
        have hchosen := select?_eq_some_iff_entry.mpr ⟨e, he, hletter, rfl, hstored⟩
        cases h.symm.trans hchosen
    | some f =>
        obtain ⟨e, he, hletter, hname, hstored⟩ := select?_eq_some_iff_entry.mp h
        rw [show f = (e.name, f.2) from Prod.ext hname.symm rfl]
        exact .entry he hstored ((isAround_of_mem_catalogue he).mpr hletter)
  · intro h
    cases h with
    | entry he hstored hletter =>
        rw [isAround_of_mem_catalogue he] at hletter
        exact select?_eq_some_iff_entry.mpr ⟨_, he, hletter, rfl, hstored⟩
    | nothing hnone =>
        refine Option.eq_none_iff_forall_ne_some.mpr fun f hf => ?_
        obtain ⟨e, he, hletter, -⟩ := select?_eq_some_iff_entry.mp hf
        exact hnone e he hletter

end

end Store

end Fixture

end FlowConsole
