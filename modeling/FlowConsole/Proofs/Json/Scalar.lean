import Mathlib.Data.Nat.Digits.Defs
import FlowConsole.Json.Printer
import FlowConsole.Json.Reader
/-!
Numbers and strings come back from their text.

The text stands in front of something else. Of a number that has to begin with what is no part of
one; a string ends at its quote, whatever follows.
-/
namespace FlowConsole.Json

/-! ## Integers -/

def EndsNumber (s : List Char) : Prop :=
  ∀ c, s.head? = some c → c.isDigit = false ∧ c ≠ '.' ∧ c ≠ 'e' ∧ c ≠ 'E'

theorem endsNumber_cons {c : Char} (hdigit : c.isDigit = false) (hpoint : c ≠ '.') (he : c ≠ 'e')
    (hE : c ≠ 'E') (s : List Char) : EndsNumber (c :: s) := by
  intro d hd
  obtain rfl : c = d := by simpa using hd
  exact ⟨hdigit, hpoint, he, hE⟩

theorem le_ofDigitChars (ds : List Char) (n : Nat) : n ≤ Nat.ofDigitChars 10 ds n := by
  rw [Nat.ofDigitChars_eq_ofDigitChars_zero]
  have hpow : 1 * n ≤ 10 ^ ds.length * n := Nat.mul_le_mul_right n (Nat.one_le_pow' ds.length 9)
  omega

theorem takeSignificand_endsNumber {rest : List Char} (hrest : EndsNumber rest) (n : Nat) :
    takeSignificand n rest = (n, rest) := by
  cases rest with
  | nil => rfl
  | cons c rest =>
      have hc := (hrest c rfl).1
      rw [takeSignificand, if_neg (by simp [hc])]

theorem takeSignificand_digits {ds rest : List Char} (hds : ∀ c ∈ ds, c.isDigit = true)
    (hrest : EndsNumber rest) {n : Nat} (hlt : Nat.ofDigitChars 10 ds n < 0x10000000000000000) :
    takeSignificand n (ds ++ rest) = (Nat.ofDigitChars 10 ds n, rest) := by
  induction ds generalizing n with
  | nil => exact takeSignificand_endsNumber hrest n
  | cons c ds ih =>
      have hc := hds c List.mem_cons_self
      have hnext : Nat.ofDigitChars 10 (c :: ds) n =
          Nat.ofDigitChars 10 ds (n * 10 + digitValue c) := by
        rw [Nat.mul_comm n 10]
        rfl
      rw [hnext] at hlt ⊢
      have hsmall : n * 10 + digitValue c < 0x10000000000000000 :=
        Nat.lt_of_le_of_lt (le_ofDigitChars ds _) hlt
      rw [List.cons_append, takeSignificand, if_pos ⟨hc, hsmall⟩]
      exact ih (fun d hd => hds d (List.mem_cons_of_mem c hd)) hlt

theorem toDigits_head_ne_zero {n : Nat} (hn : 0 < n) : (Nat.toDigits 10 n).head? ≠ some '0' := by
  induction n using Nat.strongRecOn with
  | ind n ih =>
      by_cases hlt : n < 10
      · rw [Nat.toDigits_of_lt_base hlt, List.head?_cons, Ne, Option.some.injEq,
          Nat.digitChar_eq_zero]
        omega
      · have hfront := ih (n / 10) (by omega) (by omega)
        obtain ⟨d, ds, hd⟩ := List.exists_cons_of_ne_nil
          (Nat.toDigits_ne_nil (n := n / 10) (b := 10))
        rw [hd] at hfront
        rw [Nat.toDigits_of_base_le (by omega) (by omega), hd]
        exact hfront

theorem readUnsigned_toDigits (negative : Bool) {n : Nat} (hn : n < 0x10000000000000000)
    {rest : List Char} (hrest : EndsNumber rest) :
    readUnsigned negative (Nat.toDigits 10 n ++ rest) = readNumberEnd negative n rest := by
  rcases Nat.eq_zero_or_pos n with rfl | hpos
  · rw [Nat.toDigits_zero, List.singleton_append]
    cases rest with
    | nil => rfl
    | cons c rest =>
        have hc := (hrest c rfl).1
        simp [readUnsigned, hc]
  · have hdigits : ∀ c ∈ Nat.toDigits 10 n, c.isDigit = true :=
      fun c hc => Nat.isDigit_of_mem_toDigits (by omega) (by omega) hc
    have htake : takeSignificand 0 (Nat.toDigits 10 n ++ rest) = (n, rest) := by
      rw [takeSignificand_digits hdigits hrest (by rwa [Nat.ofDigitChars_ten_toDigits]),
        Nat.ofDigitChars_ten_toDigits]
    have hnone : rest.takeWhile Char.isDigit = [] := by
      cases rest with
      | nil => rfl
      | cons c rest => rw [List.takeWhile_cons, if_neg (by simp [(hrest c rfl).1])]
    have hhead := toDigits_head_ne_zero hpos
    obtain ⟨d, ds, hd⟩ := List.exists_cons_of_ne_nil (Nat.toDigits_ne_nil (n := n) (b := 10))
    rw [hd] at hdigits htake hhead ⊢
    rw [List.cons_append] at htake ⊢
    rw [readUnsigned]
    · simp [hdigits d List.mem_cons_self, htake, hnone]
    · rintro rfl
      exact hhead rfl

theorem readNumberEnd_natural (n : Nat) {rest : List Char} (hrest : EndsNumber rest) :
    readNumberEnd false n rest = .ok (.integer n, rest) := by
  unfold readNumberEnd
  split
  · exact absurd rfl (hrest _ rfl).2.1
  · exact absurd rfl (hrest _ rfl).2.2.1
  · exact absurd rfl (hrest _ rfl).2.2.2
  · rfl

theorem readNumberEnd_negative {n : Nat} (hpos : 0 < n) (hn : n ≤ 0x8000000000000000)
    {rest : List Char} (hrest : EndsNumber rest) :
    readNumberEnd true n rest = .ok (.integer (-n), rest) := by
  unfold readNumberEnd
  split
  · exact absurd rfl (hrest _ rfl).2.1
  · exact absurd rfl (hrest _ rfl).2.2.1
  · exact absurd rfl (hrest _ rfl).2.2.2
  · rw [if_neg (by simp), if_neg (by omega)]

/-- The digit behind the point of minus zero. -/
theorem readFraction_zero {rest : List Char} (hrest : EndsNumber rest) :
    readFraction true 0 0 ('0' :: rest) = .ok (.float (.zero true), rest) := by
  have hzero : ∀ c ∈ ['0'], c.isDigit = true := List.forall_mem_singleton.mpr rfl
  have htake : takeSignificand 0 ('0' :: rest) = (0, rest) :=
    takeSignificand_digits hzero hrest (by decide)
  have hcount : (('0' :: rest).length : Int) - rest.length = 1 := by
    rw [List.length_cons]
    omega
  have hfloat : ∀ exponent, floatOfParts true 0 exponent rest = .ok (.float (.zero true), rest) :=
    fun _ => rfl
  have hend : readFloatEnd true 0 (0 - 1) rest = .ok (.float (.zero true), rest) := by
    unfold readFloatEnd
    split
    · exact absurd rfl (hrest _ rfl).2.2.1
    · exact absurd rfl (hrest _ rfl).2.2.2
    · exact hfloat _
  unfold readFraction
  simp only [htake, hcount]
  split
  · rename_i c more
    rw [if_neg (by simp [(hrest c rfl).1]), if_neg (by decide)]
    exact hend
  · exact hend

theorem Number.toNat?_eq_some_iff {k : Number} {n : Nat} :
    k.toNat? = some n ↔ n < 0x10000000000000000 ∧ k = .ofNat n := by
  cases k with
  | float x => simp [Number.toNat?, Number.ofNat]
  | integer i =>
      simp only [Number.toNat?, Number.ofNat, Number.integer.injEq]
      split
      · rw [Option.some.injEq]
        omega
      · simp only [reduceCtorEq, false_iff]
        omega

theorem Value.nat?_eq_some_iff {v : Value} {n : Nat} :
    v.nat? = some n ↔ n < 2 ^ 64 ∧ v = .number (.ofNat n) := by
  cases v with
  | number k =>
      rw [Value.nat?, Number.toNat?_eq_some_iff, Value.number.injEq]
      rfl
  | _ => exact iff_of_false nofun nofun

/-! ## Strings -/

theorem hexValue_hexDigit (n : Nat) : hexValue? (hexDigit n) = some (n % 16) := by
  have hdigits : ∀ m < 16, hexValue? (Nat.digitChar m) = some m := by decide
  exact hdigits (n % 16) (Nat.mod_lt n (by omega))

theorem readUnicode_control {c : Char} (hc : c.toNat < 0x20) (rest : List Char) :
    readUnicode ('0' :: '0' :: hexDigit (c.toNat / 16) :: hexDigit c.toNat :: rest) =
      .ok (c, rest) := by
  have hzero : hexValue? '0' = some 0 := by decide
  have hnumber : ((0 * 16 + 0) * 16 + c.toNat / 16 % 16) * 16 + c.toNat % 16 = c.toNat := by omega
  have hhex : readHex ('0' :: '0' :: hexDigit (c.toNat / 16) :: hexDigit c.toNat :: rest) =
      .ok (c.toNat, rest) := by
    rw [readHex]
    simp only [hzero, hexValue_hexDigit, hnumber]
  rw [readUnicode, hhex]
  simp only
  rw [if_neg (by omega), if_pos (by omega), Char.ofNat_toNat]

theorem readStringBody_escapeChar (fuel : Nat) (seen : List Char) (c : Char) (rest : List Char) :
    readStringBody (fuel + 1) seen (escapeChar c ++ rest) = readStringBody fuel (c :: seen) rest := by
  unfold escapeChar
  split
  case h_8 c hquote hbackslash _ _ _ _ _ =>
    split
    · rename_i hcontrol
      have hread := readUnicode_control hcontrol rest
      simp only [List.cons_append, List.nil_append]
      simp [readStringBody, readEscape, hread]
    · rename_i hplain
      rw [List.singleton_append, readStringBody, if_neg hquote, if_neg hbackslash, if_neg hplain]
  all_goals rfl

theorem readStringBody_flatMap {fuel : Nat} (cs : List Char) (hfuel : cs.length < fuel)
    (seen rest : List Char) :
    readStringBody fuel seen (cs.flatMap escapeChar ++ '"' :: rest) =
      .ok (String.ofList (seen.reverse ++ cs), rest) := by
  induction cs generalizing fuel seen with
  | nil =>
      obtain ⟨fuel, rfl⟩ := Nat.exists_eq_succ_of_ne_zero (Nat.ne_of_gt hfuel)
      simp [readStringBody]
  | cons c cs ih =>
      rw [List.length_cons] at hfuel
      obtain ⟨fuel, rfl⟩ : ∃ n, fuel = n + 1 := ⟨fuel - 1, by omega⟩
      rw [List.flatMap_cons, List.append_assoc, readStringBody_escapeChar, ih (by omega),
        List.reverse_cons, List.append_assoc, List.singleton_append]

theorem length_escapeChar_pos (c : Char) : 0 < (escapeChar c).length := by
  unfold escapeChar
  split
  case h_8 => split <;> simp
  all_goals simp

theorem length_le_length_flatMap (cs : List Char) :
    cs.length ≤ (cs.flatMap escapeChar).length := by
  induction cs with
  | nil => simp
  | cons c cs ih =>
      have hpos := length_escapeChar_pos c
      rw [List.length_cons, List.flatMap_cons, List.length_append]
      omega

theorem readString_quoted (s : String) (rest : List Char) :
    readString (s.toList.flatMap escapeChar ++ '"' :: rest) = .ok (s, rest) := by
  have hlength : s.toList.length < (s.toList.flatMap escapeChar ++ '"' :: rest).length + 1 := by
    have hle := length_le_length_flatMap s.toList
    rw [List.length_append]
    omega
  rw [readString, readStringBody_flatMap s.toList hlength, List.reverse_nil, List.nil_append,
    String.ofList_toList]

end FlowConsole.Json
