import FlowConsole.Proofs.Text.Utf8
import FlowConsole.Url.Percent
/-!
What percent-encoding keeps.

Encoding changes nothing in what a text decodes to, as long as neither the percent sign nor a
hexadecimal digit is encoded. So a text that is encoded comes back as it was exactly when it holds
nothing that reads as an encoded byte already.
-/
namespace FlowConsole.Url

open Text

/-- Whether a text begins with two hexadecimal digits, so that a percent sign in front of it stands
for a byte. -/
def opensByte : List Char → Bool
  | a :: b :: _ => (hexValue? a).isSome && (hexValue? b).isSome
  | _ => false

def holdsByte : List Char → Bool
  | [] => false
  | c :: rest => (c == '%' && opensByte rest) || holdsByte rest

/-! ## Decoding character by character -/

theorem percentDecode_byte {a b : Char} {x y : Nat} (ha : hexValue? a = some x)
    (hb : hexValue? b = some y) (rest : List Char) :
    percentDecode ('%' :: a :: b :: rest) = UInt8.ofNat (x * 16 + y) :: percentDecode rest := by
  rw [percentDecode, ha, hb]

theorem percentDecode_cons {c : Char} {s : List Char} (h : (c == '%' && opensByte s) = false) :
    percentDecode (c :: s) = Utf8.encode [c] ++ percentDecode s := by
  by_cases hc : c = '%'
  · subst hc
    match s with
    | [] => rfl
    | [a] => rfl
    | a :: b :: rest =>
        rw [percentDecode]
        simp only [opensByte, beq_self_eq_true, Bool.true_and, Bool.and_eq_false_iff,
          Option.isSome_eq_false_iff, Option.isNone_iff_eq_none] at h
        rcases h with h | h
        · rw [h]
        · rw [h]
          cases hexValue? a <;> rfl
  · rw [percentDecode]
    rintro a b rest rfl
    exact absurd rfl hc

theorem hexValue_upperHexDigit (n : Nat) : hexValue? (upperHexDigit n) = some (n % 16) := by
  have hdigits : ∀ m < 16, hexValue? (upperHexDigit m) = some m := by decide
  have hmod : upperHexDigit n = upperHexDigit (n % 16) := by simp [upperHexDigit]
  rw [hmod, hdigits (n % 16) (Nat.mod_lt n (by omega))]

theorem percentDecode_percentByte (b : UInt8) (rest : List Char) :
    percentDecode (percentByte b ++ rest) = b :: percentDecode rest := by
  have hlt := b.toNat_lt
  have hbyte : b.toNat / 16 % 16 * 16 + b.toNat % 16 = b.toNat := by omega
  have hdecode := percentDecode_byte (hexValue_upperHexDigit (b.toNat / 16))
    (hexValue_upperHexDigit b.toNat) rest
  rw [hbyte, UInt8.ofNat_toNat] at hdecode
  exact hdecode

theorem percentDecode_bytes (bs : List UInt8) (rest : List Char) :
    percentDecode (bs.flatMap percentByte ++ rest) = bs ++ percentDecode rest := by
  induction bs with
  | nil => rfl
  | cons b bs ih =>
      rw [List.flatMap_cons, List.append_assoc, percentDecode_percentByte, ih, List.cons_append]

/-! ## Decoding what was encoded -/

section

variable {p : Char → Bool}

theorem percentEncode_cons_of_not {c : Char} (hc : p c = false) (s : List Char) :
    percentEncode p (c :: s) = c :: percentEncode p s := by
  simp [percentEncode, hc]

theorem percentEncode_cons_of {c : Char} (hc : p c = true) (s : List Char) :
    percentEncode p (c :: s) = (Utf8.encode [c]).flatMap percentByte ++ percentEncode p s := by
  simp [percentEncode, hc]

theorem percentEncode_cons_head {c : Char} (hc : p c = true) (s : List Char) :
    ∃ rest, percentEncode p (c :: s) = '%' :: rest := by
  rw [percentEncode_cons_of hc]
  cases hbytes : Utf8.encode [c] with
  | nil =>
      have hpos := Utf8.encode_length_pos c
      rw [hbytes] at hpos
      exact absurd hpos (by simp)
  | cons b bs => exact ⟨_, rfl⟩

theorem opensByte_percent (s : List Char) : opensByte ('%' :: s) = false := by
  cases s <;> rfl

theorem opensByte_cons_percent (a : Char) (s : List Char) : opensByte (a :: '%' :: s) = false := by
  have hpercent : hexValue? '%' = none := by decide
  simp [opensByte, hpercent]

theorem opensByte_percentEncode (hdigit : ∀ c, (hexValue? c).isSome → p c = false)
    (s : List Char) : opensByte (percentEncode p s) = opensByte s := by
  match s with
  | [] => rfl
  | a :: rest =>
      by_cases ha : p a = true
      · obtain ⟨after, hafter⟩ := percentEncode_cons_head ha rest
        have hvalue : (hexValue? a).isSome = false := by
          cases hv : (hexValue? a).isSome with
          | false => rfl
          | true => simp [hdigit a hv] at ha
        rw [hafter, opensByte_percent]
        cases rest <;> simp [opensByte, hvalue]
      · rw [percentEncode_cons_of_not (by simpa using ha)]
        match rest with
        | [] => rfl
        | b :: rest =>
            by_cases hb : p b = true
            · obtain ⟨after, hafter⟩ := percentEncode_cons_head hb rest
              have hvalue : (hexValue? b).isSome = false := by
                cases hv : (hexValue? b).isSome with
                | false => rfl
                | true => simp [hdigit b hv] at hb
              rw [hafter, opensByte_cons_percent]
              simp [opensByte, hvalue]
            · rw [percentEncode_cons_of_not (by simpa using hb)]
              rfl

theorem percentDecode_percentEncode (hpercent : p '%' = false)
    (hdigit : ∀ c, (hexValue? c).isSome → p c = false) (s : List Char) :
    percentDecode (percentEncode p s) = percentDecode s := by
  induction hn : s.length using Nat.strongRecOn generalizing s with
  | ind n ih =>
      match s with
      | [] => rfl
      | c :: rest =>
          have hrest := ih rest.length (by simp [← hn]) rest rfl
          by_cases hbyte : (c == '%' && opensByte rest) = true
          · rw [Bool.and_eq_true, beq_iff_eq] at hbyte
            obtain ⟨rfl, hopens⟩ := hbyte
            match rest with
            | [] => simp [opensByte] at hopens
            | [a] => simp [opensByte] at hopens
            | a :: b :: rest =>
                simp only [opensByte, Bool.and_eq_true] at hopens
                obtain ⟨x, hx⟩ := Option.isSome_iff_exists.mp hopens.1
                obtain ⟨y, hy⟩ := Option.isSome_iff_exists.mp hopens.2
                have htail := ih rest.length (by simp [← hn]; omega) rest rfl
                rw [percentEncode_cons_of_not hpercent,
                  percentEncode_cons_of_not (hdigit a hopens.1),
                  percentEncode_cons_of_not (hdigit b hopens.2), percentDecode_byte hx hy,
                  percentDecode_byte hx hy, htail]
          · rw [Bool.not_eq_true] at hbyte
            rw [percentDecode_cons hbyte]
            by_cases hc : p c = true
            · rw [percentEncode_cons_of hc, percentDecode_bytes, hrest]
            · rw [percentEncode_cons_of_not (by simpa using hc), percentDecode_cons, hrest]
              rw [opensByte_percentEncode hdigit, hbyte]

end

theorem lt_of_hexValue_isSome {c : Char} (hc : (hexValue? c).isSome) : c.toNat < 0x80 := by
  have h9 : '9'.toNat = 57 := rfl
  have hf : 'f'.val.toNat = 102 := rfl
  have hF : 'F'.val.toNat = 70 := rfl
  have hval : c.val.toNat = c.toNat := rfl
  unfold hexValue? at hc
  split at hc
  · rename_i hdigit
    have hbounds := Char.isDigit_iff_toNat.mp hdigit
    omega
  · split at hc
    · rename_i hletter
      have hle := UInt32.le_iff_toNat_le.mp (Char.le_def.mp hletter.2)
      omega
    · split at hc
      · rename_i hletter
        have hle := UInt32.le_iff_toNat_le.mp (Char.le_def.mp hletter.2)
        omega
      · simp at hc

/-- A path encodes neither the percent sign nor digits. -/
theorem percentDecode_percentEncode_inPath (s : List Char) :
    percentDecode (percentEncode encodedInPath s) = percentDecode s := by
  apply percentDecode_percentEncode (by decide)
  intro c hc
  have hall : ∀ n < 0x80, (hexValue? (Char.ofNat n)).isSome →
      encodedInPath (Char.ofNat n) = false := by
    decide +kernel
  exact of_forall_ascii (P := fun c => (hexValue? c).isSome → encodedInPath c = false) hall
    (lt_of_hexValue_isSome hc) hc

/-! ## Texts that decode to themselves -/

theorem percentDecode_length_le (s : List Char) :
    (percentDecode s).length ≤ (Utf8.encode s).length := by
  fun_induction percentDecode s with
  | case1 => simp
  | case2 a b rest x y ha hb ih =>
      have hpercent := Utf8.encode_length_pos '%'
      rw [Utf8.encode_cons '%' (a :: b :: rest), Utf8.encode_cons a (b :: rest), Utf8.encode_cons b rest]
      simp only [List.length_append, List.length_cons]
      omega
  | case3 a b rest h ih =>
      rw [Utf8.encode_cons '%' (a :: b :: rest), List.length_append, List.length_append]
      omega
  | case4 c rest h ih =>
      rw [Utf8.encode_cons c rest, List.length_append, List.length_append]
      omega

theorem holdsByte_eq_false {s : List Char} (h : ∀ c ∈ s, c ≠ '%') : holdsByte s = false := by
  induction s with
  | nil => rfl
  | cons c s ih =>
      have hc := h c List.mem_cons_self
      have hs := ih fun d hd => h d (List.mem_cons_of_mem c hd)
      simp [holdsByte, hc, hs]

theorem percentDecode_eq_encode {s : List Char} (h : holdsByte s = false) :
    percentDecode s = Utf8.encode s := by
  induction s with
  | nil => rfl
  | cons c s ih =>
      rw [holdsByte, Bool.or_eq_false_iff] at h
      rw [percentDecode_cons h.1, Utf8.encode_cons c s, ih h.2]

theorem percentDecode_length_lt {s : List Char} (h : holdsByte s = true) :
    (percentDecode s).length < (Utf8.encode s).length := by
  induction s with
  | nil => simp [holdsByte] at h
  | cons c s ih =>
      by_cases hbyte : (c == '%' && opensByte s) = true
      · rw [Bool.and_eq_true, beq_iff_eq] at hbyte
        obtain ⟨rfl, hopens⟩ := hbyte
        match s with
        | [] => simp [opensByte] at hopens
        | [a] => simp [opensByte] at hopens
        | a :: b :: rest =>
            simp only [opensByte, Bool.and_eq_true] at hopens
            obtain ⟨x, hx⟩ := Option.isSome_iff_exists.mp hopens.1
            obtain ⟨y, hy⟩ := Option.isSome_iff_exists.mp hopens.2
            have hle := percentDecode_length_le rest
            have hpercent := Utf8.encode_length_pos '%'
            have ha := Utf8.encode_length_pos a
            rw [percentDecode_byte hx hy, Utf8.encode_cons '%' (a :: b :: rest),
              Utf8.encode_cons a (b :: rest), Utf8.encode_cons b rest]
            simp only [List.length_append, List.length_cons]
            omega
      · rw [Bool.not_eq_true] at hbyte
        have hs : holdsByte s = true := by simpa [holdsByte, hbyte] using h
        have hlt := ih hs
        rw [percentDecode_cons hbyte, Utf8.encode_cons c s, List.length_append, List.length_append]
        omega

/-- A text decodes to itself exactly when it holds no encoded byte. -/
theorem percentDecode_eq_encode_iff (s : List Char) :
    percentDecode s = Utf8.encode s ↔ holdsByte s = false := by
  constructor
  · intro h
    cases hs : holdsByte s with
    | false => rfl
    | true =>
        have hlt := percentDecode_length_lt hs
        rw [h] at hlt
        exact absurd hlt (Nat.lt_irrefl _)
  · exact percentDecode_eq_encode

end FlowConsole.Url
