import FlowConsole.Fixture.Letter
import FlowConsole.Proofs.Text.Utf8
import Mathlib.Data.List.Induction
import Mathlib.Data.List.Shortlex
import Mathlib.Data.Set.Function
/-!
Letters as numerals.

The letters of a list count in base twenty-six, with digits for one to twenty-six and none for
zero. So every text of the characters `a` to `z` but the empty one is the letter of exactly one
position, and positions stand as their letters do: shorter ones first, in the order of the alphabet
among those of one length.
-/
namespace FlowConsole.Fixture

open Text

/-! ## Digits -/

def lastLetter (index : Nat) : Char :=
  Char.ofNat (97 + index % 26)

/-- The digits of the letter of a position. The last one counts the positions since the last round
of the alphabet, and those in front of it count the rounds. -/
def letterChars (index : Nat) : List Char :=
  if index < 26 then [lastLetter index]
  else letterChars (index / 26 - 1) ++ [lastLetter index]
termination_by index
decreasing_by omega

theorem letterChars_of_lt {i : Nat} (h : i < 26) : letterChars i = [lastLetter i] := by
  rw [letterChars, if_pos h]

theorem letterChars_of_le {i : Nat} (h : 26 ≤ i) :
    letterChars i = letterChars (i / 26 - 1) ++ [lastLetter i] := by
  rw [letterChars, if_neg (Nat.not_lt.mpr h)]

theorem letterChars_ne_nil (i : Nat) : letterChars i ≠ [] := by
  rw [letterChars]
  split <;> simp

theorem toNat_lastLetter (i : Nat) : (lastLetter i).toNat = 97 + i % 26 :=
  Utf8.toNat_ofNat (.inl (by omega))

theorem isLower_iff {c : Char} : c.isLower = true ↔ 97 ≤ c.toNat ∧ c.toNat ≤ 122 := by
  delta Char.isLower
  rw [Bool.and_eq_true, decide_eq_true_iff, decide_eq_true_iff]
  rfl

theorem isLower_lastLetter (i : Nat) : (lastLetter i).isLower = true := by
  rw [isLower_iff, toNat_lastLetter]
  omega

theorem isLower_of_mem_letterChars {i : Nat} {c : Char} (h : c ∈ letterChars i) :
    c.isLower = true := by
  induction i using letterChars.induct with
  | case1 i hi =>
      rw [letterChars_of_lt hi, List.mem_singleton] at h
      rw [h]
      exact isLower_lastLetter i
  | case2 i hi ih =>
      rw [letterChars_of_le (Nat.not_lt.mp hi), List.mem_append, List.mem_singleton] at h
      rcases h with h | rfl
      · exact ih h
      · exact isLower_lastLetter i

/-! ## Values -/

/-- The number that digits denote: `a` is one, `z` is twenty-six. -/
def ordinal (s : List Char) : Nat :=
  s.foldl (fun n c => 26 * n + (c.toNat - 96)) 0

@[simp] theorem ordinal_nil : ordinal [] = 0 := rfl

theorem ordinal_concat (s : List Char) (c : Char) :
    ordinal (s ++ [c]) = 26 * ordinal s + (c.toNat - 96) := by
  rw [ordinal, List.foldl_concat]
  rfl

theorem ordinal_pos {s : List Char} (hne : s ≠ []) (hs : ∀ c ∈ s, c.isLower = true) :
    0 < ordinal s := by
  obtain ⟨front, c, rfl⟩ := (List.eq_nil_or_concat' s).resolve_left hne
  have hc := isLower_iff.mp (hs c (by simp))
  rw [ordinal_concat]
  omega

theorem ordinal_letterChars (i : Nat) : ordinal (letterChars i) = i + 1 := by
  induction i using letterChars.induct with
  | case1 i hi =>
      rw [letterChars_of_lt hi, ← List.nil_append [lastLetter i], ordinal_concat, ordinal_nil,
        toNat_lastLetter]
      omega
  | case2 i hi ih =>
      rw [letterChars_of_le (Nat.not_lt.mp hi), ordinal_concat, ih, toNat_lastLetter]
      omega

theorem letterChars_injective {i j : Nat} (h : letterChars i = letterChars j) : i = j := by
  have hnumber := congrArg ordinal h
  rw [ordinal_letterChars, ordinal_letterChars] at hnumber
  omega

/-- Each row of digits is the letter of the position in front of its number. -/
theorem letterChars_ordinal {s : List Char} (hne : s ≠ []) (hs : ∀ c ∈ s, c.isLower = true) :
    letterChars (ordinal s - 1) = s := by
  induction s using List.reverseRecOn with
  | nil => exact absurd rfl hne
  | append_singleton s c ih =>
      have hc := isLower_iff.mp (hs c (by simp))
      have hlast : lastLetter (ordinal (s ++ [c]) - 1) = c := by
        rw [← Char.toNat_inj, toNat_lastLetter, ordinal_concat]
        omega
      by_cases hempty : s = []
      · subst hempty
        rw [letterChars_of_lt (by rw [ordinal_concat, ordinal_nil]; omega), hlast]
        rfl
      · have hfront : ∀ d ∈ s, d.isLower = true := fun d hd => hs d (List.mem_append_left _ hd)
        have hpos := ordinal_pos hempty hfront
        have hrounds : (ordinal (s ++ [c]) - 1) / 26 = ordinal s := by
          rw [ordinal_concat]
          omega
        rw [letterChars_of_le (by rw [ordinal_concat]; omega), hlast, hrounds, ih hempty hfront]

/-! ## Order -/

theorem lex_append {s t : List Char} (hlength : s.length = t.length)
    (h : List.Lex (· < ·) s t) (u v : List Char) : List.Lex (· < ·) (s ++ u) (t ++ v) := by
  induction h with
  | nil => cases hlength
  | rel hlt => exact .rel hlt
  | cons _ ih => exact .cons (ih (Nat.succ.inj hlength))

theorem shortlex_concat {s t : List Char} (h : List.Shortlex (· < ·) s t) (c d : Char) :
    List.Shortlex (· < ·) (s ++ [c]) (t ++ [d]) := by
  rcases List.shortlex_def.mp h with hlength | ⟨hlength, hlex⟩
  · exact .of_length_lt (by simpa using hlength)
  · exact .of_lex (by simpa using hlength) (lex_append hlength hlex [c] [d])

/-- Within a round of the alphabet, positions differ in the last digit alone. -/
theorem lastLetter_lt {i j : Nat} (h : i < j) (hround : i / 26 = j / 26) :
    lastLetter i < lastLetter j := by
  change (lastLetter i).toNat < (lastLetter j).toNat
  rw [toNat_lastLetter, toNat_lastLetter]
  omega

theorem shortlex_letterChars {i j : Nat} (h : i < j) :
    List.Shortlex (· < ·) (letterChars i) (letterChars j) := by
  induction i using letterChars.induct generalizing j with
  | case1 i hi =>
      rw [letterChars_of_lt hi]
      by_cases hj : j < 26
      · rw [letterChars_of_lt hj, List.shortlex_singleton_iff]
        exact lastLetter_lt h (by omega)
      · rw [letterChars_of_le (Nat.not_lt.mp hj)]
        have hlength := List.length_pos_of_ne_nil (letterChars_ne_nil (j / 26 - 1))
        exact .of_length_lt (by simpa using hlength)
  | case2 i hi ih =>
      rw [letterChars_of_le (Nat.not_lt.mp hi), letterChars_of_le (show 26 ≤ j by omega)]
      by_cases hround : i / 26 = j / 26
      · rw [hround]
        exact .append_left ((List.shortlex_singleton_iff _ _).mpr (lastLetter_lt h hround)) _
      · exact shortlex_concat (ih (by omega)) _ _

theorem shortlex_letterChars_iff {i j : Nat} :
    List.Shortlex (· < ·) (letterChars i) (letterChars j) ↔ i < j := by
  constructor
  · intro h
    rcases Nat.lt_trichotomy i j with hlt | rfl | hgt
    · exact hlt
    · exact absurd h (irrefl _)
    · exact absurd h (asymm (shortlex_letterChars hgt))
  · exact shortlex_letterChars

/-! ## Writing -/

namespace Spelling

/-- Whether writing ends after so many rounds, each with something left to be written, and what
bytes are there then. -/
inductive EndsAfter : Spelling → (rounds : Nat) → (bytes : List UInt8) → Prop
  | done {bytes : List UInt8} : EndsAfter { left := 0, bytes } 0 bytes
  | round {s : Spelling} {rounds : Nat} {bytes : List UInt8} (hleft : s.left ≠ 0)
      (h : EndsAfter s.write rounds bytes) : EndsAfter s (rounds + 1) bytes

theorem EndsAfter.finish_eq {s : Spelling} {rounds : Nat} {bytes : List UInt8}
    (h : s.EndsAfter rounds bytes) : s.finish = bytes := by
  induction h with
  | done => rw [finish, if_pos rfl]
  | round hleft _ ih => rw [finish, if_neg hleft, ih]

def IsLowerByte (b : UInt8) : Prop :=
  'a'.toUInt8 ≤ b ∧ b ≤ 'z'.toUInt8

theorem isLowerByte_write {s : Spelling} (h : ∀ b ∈ s.bytes, IsLowerByte b) :
    ∀ b ∈ s.write.bytes, IsLowerByte b := by
  intro b hb
  rcases List.mem_cons.mp hb with rfl | hb
  · have htoNat : ('a'.toUInt8 + UInt8.ofNat ((s.left - 1) % 26)).toNat =
        97 + (s.left - 1) % 26 := by
      rw [UInt8.toNat_add, UInt8.toNat_ofNat']
      change (97 + _) % 256 = _
      omega
    rw [IsLowerByte, UInt8.le_iff_toNat_le, UInt8.le_iff_toNat_le, htoNat]
    change 97 ≤ _ ∧ _ ≤ 122
    omega
  · exact h b hb

theorem EndsAfter.isLowerByte {s : Spelling} {rounds : Nat} {bytes : List UInt8}
    (h : s.EndsAfter rounds bytes) (hs : ∀ b ∈ s.bytes, IsLowerByte b) :
    ∀ b ∈ bytes, IsLowerByte b := by
  induction h with
  | done => exact hs
  | round _ _ ih => exact ih (isLowerByte_write hs)

theorem encode_lastLetter (i : Nat) :
    Utf8.encode [lastLetter i] = ['a'.toUInt8 + UInt8.ofNat (i % 26)] := by
  rw [Utf8.encode_singleton, toNat_lastLetter, if_pos (by omega), UInt8.ofNat_add]
  rfl

/-- One round writes the last digit, and leaves the number of rounds of the alphabet. -/
theorem write_succ (i : Nat) (bytes : List UInt8) :
    write { left := i + 1, bytes } =
      { left := i / 26, bytes := Utf8.encode [lastLetter i] ++ bytes } := by
  rw [encode_lastLetter]
  rfl

/-- There is a round for each digit of the letter, whatever is written behind it. -/
theorem endsAfter_letterChars (i : Nat) (bytes : List UInt8) :
    EndsAfter { left := i + 1, bytes } (letterChars i).length
      (Utf8.encode (letterChars i) ++ bytes) := by
  induction i using letterChars.induct generalizing bytes with
  | case1 i hi =>
      rw [letterChars_of_lt hi]
      apply EndsAfter.round (Nat.succ_ne_zero i)
      rw [write_succ, Nat.div_eq_of_lt hi]
      exact .done
  | case2 i hi ih =>
      have hleft : i / 26 - 1 + 1 = i / 26 := by omega
      rw [letterChars_of_le (Nat.not_lt.mp hi), List.length_append, Utf8.encode_append,
        List.append_assoc]
      apply EndsAfter.round (Nat.succ_ne_zero i)
      rw [write_succ, ← hleft]
      exact ih _

end Spelling

/-! ## Letters -/

theorem letter_eq (i : Nat) : letter i = String.ofList (letterChars i) := by
  rw [letter, Spelling.start, (Spelling.endsAfter_letterChars i []).finish_eq, List.append_nil,
    Utf8.decode?_encode, Option.getD_some]

theorem toList_letter (i : Nat) : (letter i).toList = letterChars i := by
  rw [letter_eq, String.toList_ofList]

theorem letter_injective : Function.Injective letter := by
  intro i j h
  apply letterChars_injective
  rw [← toList_letter, ← toList_letter, h]

/-- Whether a text can be a letter: it is of `a` to `z` throughout, and not empty. -/
structure IsLetter (s : String) : Prop where
  ne_empty : s ≠ ""
  isLower : ∀ c ∈ s.toList, c.isLower = true

theorem isLetter_letter (i : Nat) : IsLetter (letter i) where
  ne_empty h := letterChars_ne_nil i (by rw [← toList_letter, h]; rfl)
  isLower c hc := isLower_of_mem_letterChars (by rwa [toList_letter] at hc)

theorem IsLetter.exists_eq {s : String} (h : IsLetter s) : ∃ i, letter i = s := by
  have hne : s.toList ≠ [] := mt String.toList_eq_nil_iff.mp h.ne_empty
  refine ⟨ordinal s.toList - 1, ?_⟩
  rw [letter_eq, letterChars_ordinal hne h.isLower, String.ofList_toList]

/-- Letters are the numerals of a system without a zero. Each text of `a` to `z` but the empty one
is the letter of one position, and later positions have longer letters, or letters of the same
length that come later in the alphabet. Writing a letter ends after a round for each of its
characters, and no other bytes are written than those of `a` to `z`. -/
theorem letters_enumerate :
    Set.BijOn letter Set.univ {s | IsLetter s} ∧
      (∀ i j, List.Shortlex (· < ·) (letter i).toList (letter j).toList ↔ i < j) ∧
      ∀ i, ∃ bytes, (Spelling.start i).EndsAfter (letter i).length bytes ∧
        Utf8.decode? bytes = some (letter i) ∧ ∀ b ∈ bytes, Spelling.IsLowerByte b := by
  refine ⟨⟨fun i _ => isLetter_letter i, letter_injective.injOn, ?_⟩, ?_, ?_⟩
  · intro s hs
    obtain ⟨i, hi⟩ := IsLetter.exists_eq hs
    exact ⟨i, Set.mem_univ i, hi⟩
  · intro i j
    rw [toList_letter, toList_letter]
    exact shortlex_letterChars_iff
  · intro i
    have hends := Spelling.endsAfter_letterChars i []
    rw [List.append_nil] at hends
    refine ⟨Utf8.encode (letterChars i), ?_, ?_, hends.isLowerByte (by simp)⟩
    · rwa [letter_eq, String.length_ofList]
    · rw [letter_eq, Utf8.decode?_encode]

/-- Behind the last letter of two characters stands the first of three. -/
theorem letters_enumerate_zz_aaa :
    letter 701 = "zz" ∧ letter 702 = "aaa" ∧
      List.Shortlex (· < ·) "zz".toList "aaa".toList ∧
      ∃ b bytes, (Spelling.start 702).EndsAfter 3 (b :: bytes) ∧ Spelling.IsLowerByte b := by
  have hzz : letter 701 = "zz" := by decide +kernel
  have haaa : letter 702 = "aaa" := by decide +kernel
  obtain ⟨-, horder, hwriting⟩ := letters_enumerate
  refine ⟨hzz, haaa, ?_, ?_⟩
  · have hless := (horder 701 702).mpr (by decide)
    rwa [hzz, haaa] at hless
  · obtain ⟨bytes, hends, hdecode, hlower⟩ := hwriting 702
    rw [haaa] at hends hdecode
    cases bytes with
    | nil => simp [Utf8.decode?_nil] at hdecode
    | cons b bytes => exact ⟨b, bytes, hends, hlower b List.mem_cons_self⟩

end FlowConsole.Fixture
