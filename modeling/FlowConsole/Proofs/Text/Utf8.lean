import Mathlib.Tactic.IntervalCases
import FlowConsole.Text.Utf8
/-!
Laws of UTF-8: the bytes of a text are those of its characters one after the other, no other bytes
are decoded, and bytes below `0x80` are the characters they stand for.
-/
namespace FlowConsole.Text

/-- What was checked for each character below `0x80`. -/
theorem of_forall_ascii {P : Char → Prop} (h : ∀ n < 0x80, P (Char.ofNat n)) {c : Char}
    (hc : c.toNat < 0x80) : P c := by
  have hp := h c.toNat hc
  rwa [Char.ofNat_toNat] at hp

theorem exists_mem_of_mapM {α β : Type} {f : α → Option β} {l : List α} {r : List β}
    (h : l.mapM f = some r) {a : α} (ha : a ∈ l) : ∃ b ∈ r, f a = some b := by
  induction l generalizing r with
  | nil => simp at ha
  | cons c l ih =>
      rw [List.mapM_cons] at h
      obtain ⟨d, hd, h⟩ := Option.bind_eq_some_iff.mp h
      obtain ⟨rest, hrest, h⟩ := Option.bind_eq_some_iff.mp h
      obtain rfl := Option.some.inj h
      rcases List.mem_cons.mp ha with rfl | ha
      · exact ⟨d, List.mem_cons_self, hd⟩
      · obtain ⟨b, hb, hf⟩ := ih hrest ha
        exact ⟨b, List.mem_cons_of_mem d hb, hf⟩

namespace Utf8

theorem encode_append (s t : List Char) : encode (s ++ t) = encode s ++ encode t :=
  List.flatMap_append

theorem encode_cons (c : Char) (s : List Char) : encode (c :: s) = encode [c] ++ encode s := by
  simp [encode]

theorem encode_singleton (c : Char) :
    encode [c] =
      if c.toNat ≤ 0x7F then [UInt8.ofNat c.toNat]
      else if c.toNat ≤ 0x7FF then
        [UInt8.ofNat (c.toNat / 64 % 32 + 192), UInt8.ofNat (c.toNat % 64 + 128)]
      else if c.toNat ≤ 0xFFFF then
        [UInt8.ofNat (c.toNat / 4096 % 16 + 224), UInt8.ofNat (c.toNat / 64 % 64 + 128),
          UInt8.ofNat (c.toNat % 64 + 128)]
      else
        [UInt8.ofNat (c.toNat / 262144 % 8 + 240), UInt8.ofNat (c.toNat / 4096 % 64 + 128),
          UInt8.ofNat (c.toNat / 64 % 64 + 128), UInt8.ofNat (c.toNat % 64 + 128)] := by
  simp only [encode, List.flatMap_cons, List.flatMap_nil, List.append_nil]
  rfl

theorem encode_length_pos (c : Char) : 0 < (encode [c]).length := by
  rw [List.length_pos_iff]
  simp [encode]

theorem encode_length_le_of_sublist {s t : List Char} (h : s.Sublist t) :
    (encode s).length ≤ (encode t).length := by
  induction h with
  | slnil => exact Nat.le_refl _
  | @cons s t c h ih =>
      rw [encode_cons c t, List.length_append]
      omega
  | @cons_cons s t c h ih =>
      rw [encode_cons c s, encode_cons c t, List.length_append, List.length_append]
      omega

theorem eq_of_sublist_of_encode_length_le {s t : List Char} (h : s.Sublist t)
    (hle : (encode t).length ≤ (encode s).length) : s = t := by
  induction h with
  | slnil => rfl
  | @cons s t c h ih =>
      have hpos := encode_length_pos c
      have hrest := encode_length_le_of_sublist h
      rw [encode_cons c t, List.length_append] at hle
      omega
  | @cons_cons s t c h ih =>
      rw [encode_cons c s, encode_cons c t, List.length_append, List.length_append] at hle
      rw [ih (by omega)]

/-! ## Decoding what was encoded -/

theorem Lead.of?_two {n : Nat} (hlow : 2 ≤ n) (hn : n < 32) :
    of? (n + 192) = some { payload := n, count := 1 } := by
  interval_cases n <;> rfl

/-- What keeps overlong forms and surrogates out lets every other character of three bytes in. -/
theorem Lead.of?_three {n : Nat} (hn : n < 16) :
    of? (n + 224) = some
      { payload := n, count := 2, low := if n = 0 then 0xA0 else 0x80
        high := if n = 13 then 0x9F else 0xBF } := by
  interval_cases n <;> rfl

theorem Lead.of?_four {n : Nat} (hn : n < 5) :
    of? (n + 240) = some
      { payload := n, count := 3, low := if n = 0 then 0x90 else 0x80
        high := if n = 4 then 0x8F else 0xBF } := by
  interval_cases n <;> rfl

/-- A byte that carries six more bits of a character. -/
theorem continuation_tail {low high x : Nat} (hx : x < 64) (hlow : low ≤ x + 128)
    (hhigh : x + 128 ≤ high) (count value : Nat) (rest : List UInt8) :
    continuation (count + 1) low high value (UInt8.ofNat (x + 128) :: rest) =
      continuation count 0x80 0xBF (value * 64 + x) rest := by
  have hbyte : (UInt8.ofNat (x + 128)).toNat = x + 128 := by
    rw [UInt8.toNat_ofNat']
    omega
  rw [continuation, hbyte, if_pos ⟨hlow, hhigh⟩, Nat.add_sub_cancel]

theorem decodeSteps_cons {n payload count low high : Nat} (hn : n < 256)
    (hlead : Lead.of? n = some ⟨payload, count, low, high⟩) {c : Char} {tail rest : List UInt8}
    (htail : continuation count low high payload tail = (some c.toNat, rest)) :
    decodeSteps (UInt8.ofNat n :: tail) = some c :: decodeSteps rest := by
  have hbyte : (UInt8.ofNat n).toNat = n := by
    rw [UInt8.toNat_ofNat']
    omega
  rw [decodeSteps, hbyte, hlead]
  simp only [htail, Option.map_some, Char.ofNat_toNat]

theorem decodeSteps_encode (c : Char) (rest : List UInt8) :
    decodeSteps (encode [c] ++ rest) = some c :: decodeSteps rest := by
  have hvalid : c.toNat < 0xD800 ∨ 0xDFFF < c.toNat ∧ c.toNat < 0x110000 := c.valid
  rw [encode_singleton]
  split_ifs with hone htwo hthree <;> simp only [List.cons_append, List.nil_append]
  · have hlead : Lead.of? c.toNat = some { payload := c.toNat, count := 0 } :=
      if_pos (Nat.lt_succ_of_le hone)
    exact decodeSteps_cons (by omega) hlead rfl
  · refine decodeSteps_cons (by omega) (Lead.of?_two (by omega) (by omega)) ?_
    have hnumber : c.toNat / 64 % 32 * 64 + c.toNat % 64 = c.toNat := by omega
    rw [continuation_tail (by omega) (by omega) (by omega), hnumber]
    rfl
  · refine decodeSteps_cons (by omega) (Lead.of?_three (by omega)) ?_
    have hnumber : (c.toNat / 4096 % 16 * 64 + c.toNat / 64 % 64) * 64 + c.toNat % 64 = c.toNat := by
      omega
    rw [continuation_tail (by omega) (by split <;> omega) (by split <;> omega),
      continuation_tail (by omega) (by omega) (by omega), hnumber]
    rfl
  · refine decodeSteps_cons (by omega) (Lead.of?_four (by omega)) ?_
    have hnumber : ((c.toNat / 262144 % 8 * 64 + c.toNat / 4096 % 64) * 64 +
        c.toNat / 64 % 64) * 64 + c.toNat % 64 = c.toNat := by
      omega
    rw [continuation_tail (by omega) (by split <;> omega) (by split <;> omega),
      continuation_tail (by omega) (by omega) (by omega),
      continuation_tail (by omega) (by omega) (by omega), hnumber]
    rfl

theorem decodeSteps_encode_text (s : List Char) : decodeSteps (encode s) = s.map some := by
  induction s with
  | nil => simp [encode, decodeSteps]
  | cons c s ih => rw [encode_cons, decodeSteps_encode, ih, List.map_cons]

theorem decode?_encode (s : List Char) : decode? (encode s) = some (String.ofList s) := by
  have hall : (s.map some).mapM id = some s := by
    rw [List.mapM_map]
    exact (List.mapM_pure (m := Option) (f := id)).trans (by simp)
  rw [decode?, decodeSteps_encode_text, hall, Option.map_some]

theorem decodeLossy_encode (s : List Char) : decodeLossy (encode s) = String.ofList s := by
  have hall : ((s.map some).map fun c => c.getD (Char.ofNat 0xFFFD)) = s := by
    rw [List.map_map]
    exact List.map_id s
  rw [decodeLossy, decodeSteps_encode_text, hall]

theorem decode?_nil : decode? [] = some "" :=
  decode?_encode []

/-! ## Encoding what was decoded -/

theorem toNat_ofNat {n : Nat} (h : n < 0xD800 ∨ 0xDFFF < n ∧ n < 0x110000) :
    (Char.ofNat n).toNat = n := by
  unfold Char.ofNat
  rw [dif_pos h]
  rfl

theorem Lead.of?_cases {b : Nat} {lead : Lead} (h : of? b = some lead) :
    0x80 ≤ lead.low ∧ lead.high ≤ 0xBF ∧
    ((lead.count = 0 ∧ b = lead.payload ∧ b < 0x80) ∨
      (lead.count = 1 ∧ b = lead.payload + 192 ∧ 2 ≤ lead.payload ∧ lead.payload < 32) ∨
      (lead.count = 2 ∧ b = lead.payload + 224 ∧ lead.payload < 16 ∧
        (lead.payload = 0 → 0xA0 ≤ lead.low) ∧ (lead.payload = 13 → lead.high ≤ 0x9F)) ∨
      (lead.count = 3 ∧ b = lead.payload + 240 ∧ lead.payload < 5 ∧
        (lead.payload = 0 → 0x90 ≤ lead.low) ∧ (lead.payload = 4 → lead.high ≤ 0x8F))) := by
  unfold of? at h
  split_ifs at h <;> obtain rfl := Option.some.inj h <;> dsimp only <;> omega

theorem continuation_succ_eq_some {count low high value n : Nat} {s rest : List UInt8}
    (hlow : 0x80 ≤ low)
    (h : continuation (count + 1) low high value s = (some n, rest)) :
    ∃ x s', s = UInt8.ofNat (x + 128) :: s' ∧ low ≤ x + 128 ∧ x + 128 ≤ high ∧
      continuation count 0x80 0xBF (value * 64 + x) s' = (some n, rest) := by
  cases s with
  | nil => simp [continuation] at h
  | cons b s =>
      rw [continuation] at h
      split at h
      · rename_i hb
        have hback : b.toNat - 0x80 + 128 = b.toNat := by omega
        refine ⟨b.toNat - 0x80, s, ?_, by omega, by omega, h⟩
        rw [hback, UInt8.ofNat_toNat]
      · simp at h

theorem continuation_zero_eq_some {low high value n : Nat} {s rest : List UInt8}
    (h : continuation 0 low high value s = (some n, rest)) : n = value ∧ s = rest := by
  cases s <;> simpa [continuation, eq_comm] using h

theorem eq_encode_of_continuation {b : UInt8} {lead : Lead} {n : Nat} {s rest : List UInt8}
    (hlead : Lead.of? b.toNat = some lead)
    (h : continuation lead.count lead.low lead.high lead.payload s = (some n, rest)) :
    b :: s = encode [Char.ofNat n] ++ rest := by
  obtain ⟨hlow, hhigh, hcases⟩ := Lead.of?_cases hlead
  obtain ⟨payload, count, low, high⟩ := lead
  rw [← UInt8.ofNat_toNat (x := b)]
  generalize b.toNat = first at hcases
  dsimp only at h hlow hhigh hcases
  rcases hcases with hone | htwo | hthree | hfour
  · obtain ⟨rfl, rfl, hsmall⟩ := hone
    obtain ⟨rfl, rfl⟩ := continuation_zero_eq_some h
    rw [encode_singleton, toNat_ofNat (.inl (by omega)), if_pos (by omega)]
    rfl
  · obtain ⟨rfl, rfl, hmin, hmax⟩ := htwo
    obtain ⟨x, s, rfl, hx, hx', h⟩ := continuation_succ_eq_some hlow h
    obtain ⟨rfl, rfl⟩ := continuation_zero_eq_some h
    rw [encode_singleton, toNat_ofNat (.inl (by omega)), if_neg (by omega), if_pos (by omega)]
    have hlast : (payload * 64 + x) % 64 = x := by omega
    have hfirst : (payload * 64 + x) / 64 % 32 = payload := by omega
    rw [hlast, hfirst]
    rfl
  · obtain ⟨rfl, rfl, hmax, hoverlong, hsurrogate⟩ := hthree
    obtain ⟨x, s, rfl, hx, hx', h⟩ := continuation_succ_eq_some hlow h
    obtain ⟨y, s, rfl, hy, hy', h⟩ := continuation_succ_eq_some (by omega) h
    obtain ⟨rfl, rfl⟩ := continuation_zero_eq_some h
    rw [encode_singleton, toNat_ofNat (by omega), if_neg (by omega), if_neg (by omega),
      if_pos (by omega)]
    have hlast : ((payload * 64 + x) * 64 + y) % 64 = y := by omega
    have hmiddle : ((payload * 64 + x) * 64 + y) / 64 % 64 = x := by omega
    have hfirst : ((payload * 64 + x) * 64 + y) / 4096 % 16 = payload := by omega
    rw [hlast, hmiddle, hfirst]
    rfl
  · obtain ⟨rfl, rfl, hmax, hoverlong, hbeyond⟩ := hfour
    obtain ⟨x, s, rfl, hx, hx', h⟩ := continuation_succ_eq_some hlow h
    obtain ⟨y, s, rfl, hy, hy', h⟩ := continuation_succ_eq_some (by omega) h
    obtain ⟨z, s, rfl, hz, hz', h⟩ := continuation_succ_eq_some (by omega) h
    obtain ⟨rfl, rfl⟩ := continuation_zero_eq_some h
    rw [encode_singleton, toNat_ofNat (by omega), if_neg (by omega), if_neg (by omega),
      if_neg (by omega)]
    have hlast : (((payload * 64 + x) * 64 + y) * 64 + z) % 64 = z := by omega
    have hthird : (((payload * 64 + x) * 64 + y) * 64 + z) / 64 % 64 = y := by omega
    have hsecond : (((payload * 64 + x) * 64 + y) * 64 + z) / 4096 % 64 = x := by omega
    have hfirst : (((payload * 64 + x) * 64 + y) * 64 + z) / 262144 % 8 = payload := by omega
    rw [hlast, hthird, hsecond, hfirst]
    rfl

theorem eq_encode_of_decodeSteps {bytes : List UInt8} {s : List Char}
    (h : decodeSteps bytes = s.map some) : bytes = encode s := by
  fun_induction decodeSteps bytes generalizing s with
  | case1 =>
      obtain rfl := List.map_eq_nil_iff.mp h.symm
      rfl
  | case2 b rest hlead ih =>
      cases s <;> simp at h
  | case3 b rest lead hlead step =>
      rename_i ih
      obtain ⟨c, s', rfl, hc, hs⟩ := List.map_eq_cons_iff.mp h.symm
      obtain ⟨n, hn, rfl⟩ := Option.map_eq_some_iff.mp hc.symm
      rw [encode_cons, ← ih hs.symm]
      exact eq_encode_of_continuation hlead (Prod.ext hn rfl)

theorem eq_map_some_of_mapM {α : Type} {l : List (Option α)} {r : List α} (h : l.mapM id = some r) :
    l = r.map some := by
  induction l generalizing r with
  | nil =>
      obtain rfl := Option.some.inj h
      rfl
  | cons a l ih =>
      rw [List.mapM_cons] at h
      obtain ⟨b, hb, h⟩ := Option.bind_eq_some_iff.mp h
      obtain ⟨rest, hrest, h⟩ := Option.bind_eq_some_iff.mp h
      obtain rfl := Option.some.inj h
      rw [ih hrest, List.map_cons]
      exact congrArg (· :: rest.map some) hb

theorem decode?_eq_some_iff {bytes : List UInt8} {text : String} :
    decode? bytes = some text ↔ bytes = encode text.toList := by
  constructor
  · intro h
    obtain ⟨s, hs, rfl⟩ := Option.map_eq_some_iff.mp h
    rw [String.toList_ofList]
    exact eq_encode_of_decodeSteps (eq_map_some_of_mapM hs)
  · rintro rfl
    rw [decode?_encode, String.ofList_toList]

/-! ## Bytes of their own -/

theorem ofNat_eq_of_mem_encode {b : UInt8} (hb : b.toNat < 0x80) {c : Char} (h : b ∈ encode [c]) :
    Char.ofNat b.toNat = c := by
  rw [encode_singleton] at h
  split_ifs at h with hone
  · obtain rfl := List.mem_singleton.mp h
    rw [UInt8.toNat_ofNat', Nat.mod_eq_of_lt (by omega), Char.ofNat_toNat]
  all_goals
    simp only [List.mem_cons, List.not_mem_nil, or_false, ← UInt8.toNat_inj,
      UInt8.toNat_ofNat'] at h
    omega

theorem mem_of_decode? {b : UInt8} (hb : b.toNat < 0x80) {bytes : List UInt8} (h : b ∈ bytes)
    {text : String} (hdecode : decode? bytes = some text) : Char.ofNat b.toNat ∈ text.toList := by
  rw [decode?_eq_some_iff.mp hdecode, encode] at h
  obtain ⟨c, hc, hmem⟩ := List.mem_flatMap.mp h
  rwa [ofNat_eq_of_mem_encode hb (c := c) (by simpa [encode] using hmem)]

end Utf8

end FlowConsole.Text
