import FlowConsole.Text.Base64
import Mathlib.Algebra.Group.Nat.Defs
import Mathlib.Data.List.Basic
/-!
What Base64 is: the bits of the bytes, six to a digit.

Main statement: a text is the standard form of some bytes exactly if it is what they are encoded as.
-/
namespace FlowConsole.Text.Base64

def alphabet : List Char :=
  "ABCDEFGHIJKLMNOPQRSTUVWXYZabcdefghijklmnopqrstuvwxyz0123456789+/".toList

/-- The lowest bits of a number, the most significant of them first. -/
def bits : (width : Nat) → Nat → List Bool
  | 0, _ => []
  | width + 1, n => n.testBit width :: bits width n

/-- Whether values are the bits of some bytes in groups of six, the last of them filled up with
zeros. -/
structure IsGrouped (bytes : List UInt8) (values : List Nat) : Prop where
  small : ∀ v ∈ values, v < 64
  bits : ∃ zeros < 6, values.flatMap (bits 6) =
    (bytes.flatMap fun b => bits 8 b.toNat) ++ List.replicate zeros false

/-- A digit for each value, and `=` up to a multiple of four characters. -/
def written (values : List Nat) : List Char :=
  values.map (fun v => alphabet.getD v '=') ++ List.replicate ((4 - values.length % 4) % 4) '='

/-- Whether a text is the standard form of some bytes. -/
def IsStandard (bytes : List UInt8) (text : List Char) : Prop :=
  ∃ values, IsGrouped bytes values ∧ text = written values

/-! ## Bits -/

theorem bits_add (m k n : Nat) : bits (m + k) n = bits m (n / 2 ^ k) ++ bits k n := by
  induction m with
  | zero => rw [Nat.zero_add, bits, List.nil_append]
  | succ m ih =>
      have hbit : n.testBit (m + k) = (n / 2 ^ k).testBit m := by
        rw [Nat.testBit_div_two_pow, Nat.add_comm]
      rw [Nat.succ_add, bits, bits, ih, hbit, List.cons_append]

theorem bits_mod {m k : Nat} (h : m ≤ k) (n : Nat) : bits m (n % 2 ^ k) = bits m n := by
  induction m with
  | zero => rfl
  | succ m ih =>
      have hbit : (n % 2 ^ k).testBit m = n.testBit m := by
        rw [Nat.testBit_mod_two_pow, decide_eq_true (Nat.lt_of_succ_le h), Bool.true_and]
      rw [bits, bits, ih (Nat.le_of_succ_le h), hbit]

theorem bits_length (width n : Nat) : (bits width n).length = width := by
  induction width with
  | zero => rfl
  | succ width ih => rw [bits, List.length_cons, ih]

theorem bits_six_inj {v w : Nat} (hv : v < 64) (hw : w < 64) (h : bits 6 v = bits 6 w) : v = w := by
  have hvalue : ∀ n < 64, (bits 6 n).foldl (fun value bit => 2 * value + bit.toNat) 0 = n := by
    decide
  rw [← hvalue v hv, ← hvalue w hw, h]

theorem flatMap_bits_inj {values values' : List Nat} (h : ∀ v ∈ values, v < 64)
    (h' : ∀ v ∈ values', v < 64) (heq : values.flatMap (bits 6) = values'.flatMap (bits 6)) :
    values = values' := by
  induction values generalizing values' with
  | nil =>
      cases values' with
      | nil => rfl
      | cons w rest' => simp [bits] at heq
  | cons v rest ih =>
      cases values' with
      | nil => simp [bits] at heq
      | cons w rest' =>
          rw [List.flatMap_cons, List.flatMap_cons] at heq
          obtain ⟨hfirst, hrest⟩ := List.append_inj heq (by rw [bits_length, bits_length])
          have hvw := bits_six_inj (h v List.mem_cons_self) (h' w List.mem_cons_self) hfirst
          rw [hvw, ih (fun u hu => h u (List.mem_cons_of_mem v hu))
            (fun u hu => h' u (List.mem_cons_of_mem w hu)) hrest]

theorem flatMap_bits_length (width : Nat) (values : List Nat) :
    (values.flatMap (bits width)).length = width * values.length := by
  induction values with
  | nil => rfl
  | cons v rest ih =>
      rw [List.flatMap_cons, List.length_append, bits_length, ih, List.length_cons, Nat.mul_succ,
        Nat.add_comm]

theorem IsGrouped.unique {bytes : List UInt8} {values values' : List Nat}
    (h : IsGrouped bytes values) (h' : IsGrouped bytes values') : values = values' := by
  obtain ⟨zeros, hzeros, hbits⟩ := h.bits
  obtain ⟨zeros', hzeros', hbits'⟩ := h'.bits
  have hlength := congrArg List.length hbits
  have hlength' := congrArg List.length hbits'
  simp only [flatMap_bits_length, List.length_append, List.length_replicate] at hlength hlength'
  obtain rfl : zeros = zeros' := by omega
  exact flatMap_bits_inj h.small h'.small (hbits.trans hbits'.symm)

/-! ## The encoder -/

theorem digit_eq {n : Nat} (h : n < 64) : digit n = alphabet.getD n '=' := by
  have hall : ∀ n < 64, digit n = alphabet.getD n '=' := by decide +kernel
  exact hall n h

theorem bits_mod_six (n : Nat) : bits 6 (n % 64) = bits 6 n := bits_mod (Nat.le_refl 6) n

theorem bits_mod_eight (n : Nat) : bits 8 (n % 256) = bits 8 n := bits_mod (Nat.le_refl 8) n

theorem bits_twelve (n : Nat) : bits 12 n = bits 6 (n / 64) ++ bits 6 (n % 64) := by
  rw [bits_mod_six]
  exact bits_add 6 6 n

theorem bits_eighteen (n : Nat) :
    bits 18 n = bits 6 (n / 4096) ++ (bits 6 (n / 64 % 64) ++ bits 6 (n % 64)) := by
  calc bits 18 n = bits 6 (n / 4096) ++ bits 12 n := bits_add 6 12 n
    _ = _ := by rw [bits_twelve, bits_mod_six (n / 64)]

theorem bits_twentyFour (n : Nat) :
    bits 24 n = bits 6 (n / 262144) ++
      (bits 6 (n / 4096 % 64) ++ (bits 6 (n / 64 % 64) ++ bits 6 (n % 64))) := by
  calc bits 24 n = bits 6 (n / 262144) ++ bits 18 n := bits_add 6 18 n
    _ = _ := by rw [bits_eighteen, bits_mod_six (n / 4096)]

theorem bits_pair (a : Nat) {b : Nat} (hb : b < 256) : bits 16 (a * 256 + b) = bits 8 a ++ bits 8 b := by
  have ha : (a * 256 + b) / 256 = a := by omega
  have hmod : (a * 256 + b) % 256 = b := by omega
  calc bits 16 (a * 256 + b)
      = bits 8 ((a * 256 + b) / 256) ++ bits 8 (a * 256 + b) := bits_add 8 8 (a * 256 + b)
    _ = bits 8 a ++ bits 8 b := by rw [← bits_mod_eight (a * 256 + b), ha, hmod]

theorem bits_triple (a : Nat) {b c : Nat} (hb : b < 256) (hc : c < 256) :
    bits 24 ((a * 256 + b) * 256 + c) = bits 8 a ++ (bits 8 b ++ bits 8 c) := by
  have hab : ((a * 256 + b) * 256 + c) / 256 = a * 256 + b := by omega
  have hmod : ((a * 256 + b) * 256 + c) % 256 = c := by omega
  calc bits 24 ((a * 256 + b) * 256 + c)
      = bits 16 (((a * 256 + b) * 256 + c) / 256) ++ bits 8 ((a * 256 + b) * 256 + c) :=
        bits_add 16 8 _
    _ = bits 8 a ++ (bits 8 b ++ bits 8 c) := by
        rw [← bits_mod_eight ((a * 256 + b) * 256 + c), hab, hmod, bits_pair a hb, List.append_assoc]

theorem bits_zero (width : Nat) : bits width 0 = List.replicate width false := by
  induction width with
  | zero => rfl
  | succ width ih => rw [bits, ih, Nat.zero_testBit, List.replicate_succ]

theorem bits_mul_two_pow (width zeros n : Nat) :
    bits (width + zeros) (n * 2 ^ zeros) = bits width n ++ List.replicate zeros false := by
  have hlow : bits zeros (n * 2 ^ zeros) = List.replicate zeros false := by
    rw [← bits_mod (Nat.le_refl zeros), Nat.mul_mod_left, bits_zero]
  rw [bits_add, Nat.mul_div_cancel n (Nat.two_pow_pos zeros), hlow]

theorem written_four {n₁ n₂ n₃ n₄ : Nat} (h₁ : n₁ < 64) (h₂ : n₂ < 64) (h₃ : n₃ < 64) (h₄ : n₄ < 64)
    (values : List Nat) :
    written (n₁ :: n₂ :: n₃ :: n₄ :: values) =
      digit n₁ :: digit n₂ :: digit n₃ :: digit n₄ :: written values := by
  simp [written, digit_eq, h₁, h₂, h₃, h₄, Nat.add_assoc]

theorem IsGrouped.cons {a b c : UInt8} {rest : List UInt8} {values : List Nat}
    (h : IsGrouped rest values) {n : Nat} (hn : n = (a.toNat * 256 + b.toNat) * 256 + c.toNat) :
    IsGrouped (a :: b :: c :: rest)
      (n / 262144 :: n / 4096 % 64 :: n / 64 % 64 :: n % 64 :: values) := by
  have ha := a.toNat_lt
  have hb := b.toNat_lt
  have hc := c.toNat_lt
  obtain ⟨zeros, hzeros, hbits⟩ := h.bits
  refine ⟨fun v hv => ?_, zeros, hzeros, ?_⟩
  · simp only [List.mem_cons] at hv
    rcases hv with rfl | rfl | rfl | rfl | hv
    · omega
    · omega
    · omega
    · omega
    · exact h.small v hv
  · have hfour := bits_twentyFour n
    rw [hn, bits_triple a.toNat hb hc, ← hn] at hfour
    simp only [List.flatMap_cons, hbits]
    simp only [← List.append_assoc] at hfour ⊢
    rw [hfour]

theorem encode_isStandard (bytes : List UInt8) : IsStandard bytes (encode bytes) := by
  induction bytes using encode.induct with
  | case1 => exact ⟨[], ⟨by simp, 0, by decide, rfl⟩, rfl⟩
  | case2 a =>
      have ha := a.toNat_lt
      obtain ⟨n, hn⟩ : ∃ n, n = a.toNat * 16 := ⟨_, rfl⟩
      have hbits : bits 12 n = bits 8 a.toNat ++ List.replicate 4 false := by
        rw [hn]
        exact bits_mul_two_pow 8 4 a.toNat
      refine ⟨[n / 64, n % 64], ⟨?_, 4, by decide, ?_⟩, ?_⟩
      · simp only [List.mem_cons, List.not_mem_nil, or_false]
        omega
      · simpa [bits_twelve] using hbits
      · have hhigh : n / 64 < 64 := by omega
        simp only [encode, ← hn, digit_eq hhigh, digit_eq (n.mod_lt (by decide : 64 > 0))]
        rfl
  | case3 a b =>
      have ha := a.toNat_lt
      have hb := b.toNat_lt
      obtain ⟨n, hn⟩ : ∃ n, n = (a.toNat * 256 + b.toNat) * 4 := ⟨_, rfl⟩
      have hbits : bits 18 n = (bits 8 a.toNat ++ bits 8 b.toNat) ++ List.replicate 2 false := by
        rw [← bits_pair a.toNat hb, hn]
        exact bits_mul_two_pow 16 2 _
      refine ⟨[n / 4096, n / 64 % 64, n % 64], ⟨?_, 2, by decide, ?_⟩, ?_⟩
      · simp only [List.mem_cons, List.not_mem_nil, or_false]
        omega
      · simpa [bits_eighteen] using hbits
      · have hhigh : n / 4096 < 64 := by omega
        simp only [encode, ← hn, digit_eq hhigh, digit_eq ((n / 64).mod_lt (by decide : 64 > 0)),
          digit_eq (n.mod_lt (by decide : 64 > 0))]
        rfl
  | case4 a b c rest ih =>
      have ha := a.toNat_lt
      have hb := b.toNat_lt
      have hc := c.toNat_lt
      obtain ⟨n, hn⟩ : ∃ n, n = (a.toNat * 256 + b.toNat) * 256 + c.toNat := ⟨_, rfl⟩
      obtain ⟨values, hvalues, htext⟩ := ih
      refine ⟨_, hvalues.cons hn, ?_⟩
      rw [written_four (by omega) (by omega) (by omega) (by omega), ← htext, encode, hn]

theorem isStandard_iff {bytes : List UInt8} {text : List Char} :
    IsStandard bytes text ↔ text = encode bytes := by
  constructor
  · rintro ⟨values, hvalues, rfl⟩
    obtain ⟨values', hvalues', htext⟩ := encode_isStandard bytes
    rw [htext, hvalues.unique hvalues']
  · rintro rfl
    exact encode_isStandard bytes

end FlowConsole.Text.Base64
