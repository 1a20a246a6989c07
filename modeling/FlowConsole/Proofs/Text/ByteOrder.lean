import Mathlib.Data.List.Lex
import Mathlib.Data.String.Basic
import FlowConsole.Proofs.Text.Utf8
/-!
The order of texts is that of their bytes.
-/
namespace FlowConsole.Text.Utf8

theorem ofNat_cons_lt {m n : Nat} (hle : m ≤ n) (hn : n < 256) {s t : List UInt8}
    (hrest : m = n → s < t) : UInt8.ofNat m :: s < UInt8.ofNat n :: t := by
  rw [List.cons_lt_cons_iff]
  rcases Nat.eq_or_lt_of_le hle with rfl | hlt
  · exact .inr ⟨rfl, hrest rfl⟩
  · refine .inl ?_
    rw [UInt8.lt_iff_toNat_lt, UInt8.toNat_ofNat', UInt8.toNat_ofNat']
    omega

theorem encode_singleton_append_lt {c d : Char} (h : c < d) (s t : List UInt8) :
    encode [c] ++ s < encode [d] ++ t := by
  have hlt : c.toNat < d.toNat := h
  have hvalid : d.toNat < 0xD800 ∨ 0xDFFF < d.toNat ∧ d.toNat < 0x110000 := d.valid
  rw [encode_singleton, encode_singleton]
  split_ifs <;> simp only [List.cons_append, List.nil_append]
  -- the greater of two characters is not the shorter one, and the longer one has the greater lead
  any_goals omega
  all_goals refine ofNat_cons_lt (by omega) (by omega) fun hlead => ?_
  any_goals omega
  · exact ofNat_cons_lt (by omega) (by omega) fun hlast => by omega
  · refine ofNat_cons_lt (by omega) (by omega) fun hmiddle => ?_
    exact ofNat_cons_lt (by omega) (by omega) fun hlast => by omega
  · refine ofNat_cons_lt (by omega) (by omega) fun hsecond => ?_
    refine ofNat_cons_lt (by omega) (by omega) fun hthird => ?_
    exact ofNat_cons_lt (by omega) (by omega) fun hlast => by omega

theorem encode_lt_encode {s t : List Char} (h : s < t) : encode s < encode t := by
  induction h with
  | @nil d t =>
      obtain ⟨b, bytes, hbytes⟩ := List.exists_cons_of_length_pos (encode_length_pos d)
      rw [encode_cons, hbytes]
      exact List.nil_lt_cons b _
  | @rel c s d t hlt =>
      rw [encode_cons c s, encode_cons d t]
      exact encode_singleton_append_lt hlt _ _
  | @cons c s t _ ih =>
      rw [encode_cons c s, encode_cons c t]
      exact List.append_left_lt ih

theorem encode_lt_encode_iff {s t : List Char} : encode s < encode t ↔ s < t := by
  refine ⟨fun h => ?_, encode_lt_encode⟩
  rcases lt_trichotomy s t with hlt | rfl | hgt
  · exact hlt
  · exact absurd h (List.lt_irrefl _)
  · exact absurd h (List.lt_asymm (encode_lt_encode hgt))

theorem encode_toList_lt_iff {s t : String} : encode s.toList < encode t.toList ↔ s < t := by
  rw [encode_lt_encode_iff, String.lt_iff_toList_lt]

end FlowConsole.Text.Utf8
