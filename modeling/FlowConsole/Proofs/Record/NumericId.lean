import FlowConsole.Proofs.Json.Scalar
import FlowConsole.Proofs.Record.FlowKey
import FlowConsole.Proofs.Text.Split
/-!
What is read as the number of a node, a table or a CMTS.

A number is given as such or by a text. Of a text only that counts which is behind its last colon.
There, blanks around the digits, a plus sign and zeros in front of them do not matter.
-/
namespace FlowConsole.Record

open Json Text

/-! ## Texts of numbers -/

/-- The digits of a number, zeros in front of them allowed. -/
def IsDecimal (n : Nat) (ds : List Char) : Prop :=
  ∃ zeros, ds = List.replicate zeros '0' ++ Nat.toDigits 10 n

/-- The texts of a number: its digits, perhaps behind a plus sign, and blanks around all that. -/
def IsNumeral (n : Nat) (s : List Char) : Prop :=
  ∃ before sign digits after, s = before ++ (sign ++ digits) ++ after ∧ IsDecimal n digits ∧
    (sign = [] ∨ sign = ['+']) ∧ (∀ c ∈ before, isBlank c = true) ∧ ∀ c ∈ after, isBlank c = true

theorem digitChar_sub {c : Char} (hc : c.isDigit = true) :
    c.toNat - 48 < 10 ∧ (c.toNat - 48).digitChar = c := by
  have hbounds := Char.isDigit_iff_toNat.mp hc
  have h0 : '0'.toNat = 48 := rfl
  have h9 : '9'.toNat = 57 := rfl
  have hlt : c.toNat - 48 < 10 := by omega
  refine ⟨hlt, Char.toNat_inj.mp ?_⟩
  rw [Nat.toNat_digitChar_of_lt_ten hlt]
  omega

theorem foldl_eq_ofDigitChars (ds : List Char) :
    ds.foldl (fun n c => n * 10 + (c.toNat - 48)) 0 = Nat.ofDigitChars 10 ds 0 := by
  simp only [Nat.ofDigitChars_eq_foldl, Nat.mul_comm 10]
  rfl

theorem isDigit_of_isDecimal {n : Nat} {ds : List Char} (h : IsDecimal n ds) :
    ∀ c ∈ ds, c.isDigit = true := by
  obtain ⟨zeros, rfl⟩ := h
  intro c hc
  rcases List.mem_append.mp hc with hc | hc
  · rw [List.eq_of_mem_replicate hc]
    rfl
  · exact Nat.isDigit_of_mem_toDigits (by decide) (by decide) hc

theorem isDecimal_singleton {c : Char} (hc : c.isDigit = true) : IsDecimal (c.toNat - 48) [c] := by
  obtain ⟨hlt, hchar⟩ := digitChar_sub hc
  exact ⟨0, by simp [Nat.toDigits_of_lt_base hlt, hchar]⟩

theorem IsDecimal.concat {n : Nat} {ds : List Char} (h : IsDecimal n ds) {c : Char}
    (hc : c.isDigit = true) : IsDecimal (10 * n + (c.toNat - 48)) (ds ++ [c]) := by
  obtain ⟨zeros, rfl⟩ := h
  obtain ⟨hlt, hchar⟩ := digitChar_sub hc
  by_cases hn : n = 0
  · subst hn
    refine ⟨zeros + 1, ?_⟩
    rw [Nat.toDigits_zero, Nat.mul_zero, Nat.zero_add, Nat.toDigits_of_lt_base hlt, hchar,
      List.replicate_succ']
  · refine ⟨zeros, ?_⟩
    rw [← Nat.toDigits_append_toDigits (by decide) (Nat.pos_of_ne_zero hn) hlt,
      Nat.toDigits_of_lt_base hlt, hchar, List.append_assoc]

theorem isDecimal_ofDigitChars {ds : List Char} (hds : ∀ c ∈ ds, c.isDigit = true) (hne : ds ≠ []) :
    IsDecimal (Nat.ofDigitChars 10 ds 0) ds := by
  induction ds using List.reverseRecOn with
  | nil => exact absurd rfl hne
  | append_singleton ds c ih =>
      have hc := hds c (by simp)
      have hvalue : Nat.ofDigitChars 10 (ds ++ [c]) 0 =
          10 * Nat.ofDigitChars 10 ds 0 + (c.toNat - 48) := by
        rw [Nat.ofDigitChars_append]
        rfl
      rw [hvalue]
      by_cases hempty : ds = []
      · subst hempty
        rw [Nat.ofDigitChars_nil, Nat.mul_zero, Nat.zero_add]
        exact isDecimal_singleton hc
      · exact (ih (fun d hd => hds d (List.mem_append_left _ hd)) hempty).concat hc

theorem isDecimal_iff {n : Nat} {ds : List Char} :
    IsDecimal n ds ↔
      ds ≠ [] ∧ (∀ c ∈ ds, c.isDigit = true) ∧ Nat.ofDigitChars 10 ds 0 = n := by
  constructor
  · intro h
    have hdigits := isDigit_of_isDecimal h
    obtain ⟨zeros, rfl⟩ := h
    refine ⟨by simp [Nat.toDigits_ne_nil], hdigits, ?_⟩
    rw [Nat.ofDigitChars_append, Nat.ofDigitChars_replicate_zero, Nat.mul_zero,
      Nat.ofDigitChars_ten_toDigits]
  · rintro ⟨hne, hdigits, rfl⟩
    exact isDecimal_ofDigitChars hdigits hne

theorem natOfDigits?_eq_some_iff {n : Nat} {ds : List Char} :
    natOfDigits? ds = some n ↔ IsDecimal n ds := by
  rw [isDecimal_iff, natOfDigits?, foldl_eq_ofDigitChars]
  by_cases hempty : ds = []
  · simp [hempty]
  · simp [hempty]

theorem boundedNat?_eq_some_iff {bound n : Nat} {s : List Char} :
    boundedNat? bound s = some n ↔ n < bound ∧
      ∃ sign digits, s = sign ++ digits ∧ IsDecimal n digits ∧ (sign = [] ∨ sign = ['+']) := by
  unfold boundedNat?
  rw [Option.filter_eq_some_iff, natOfDigits?_eq_some_iff, decide_eq_true_iff, and_comm,
    and_congr_right_iff]
  intro _
  split
  · rename_i rest
    constructor
    · intro h
      exact ⟨['+'], rest, rfl, h, .inr rfl⟩
    · rintro ⟨sign, digits, hs, h, rfl | rfl⟩
      · -- a plus sign is no digit
        rw [List.nil_append] at hs
        subst hs
        exact absurd (isDigit_of_isDecimal h '+' List.mem_cons_self) (by decide)
      · rwa [(List.cons.inj hs).2]
  · rename_i hplus
    constructor
    · intro h
      exact ⟨[], s, rfl, h, .inl rfl⟩
    · rintro ⟨sign, digits, rfl, h, rfl | rfl⟩
      · exact h
      · exact absurd rfl (hplus digits)

theorem isBlank_eq_false_of_isNumeral {n : Nat} {sign digits : List Char} (h : IsDecimal n digits)
    (hsign : sign = [] ∨ sign = ['+']) : ∀ c ∈ sign ++ digits, isBlank c = false := by
  intro c hc
  rcases List.mem_append.mp hc with hc | hc
  · rcases hsign with rfl | rfl
    · cases hc
    · rw [List.mem_singleton.mp hc]
      rfl
  · exact isBlank_eq_false_of_isDigit (isDigit_of_isDecimal h c hc)

theorem boundedNat?_trimChars_eq_some_iff {bound n : Nat} {s : List Char} :
    boundedNat? bound (trimChars s) = some n ↔ n < bound ∧ IsNumeral n s := by
  rw [boundedNat?_eq_some_iff, and_congr_right_iff]
  intro _
  constructor
  · rintro ⟨sign, digits, hs, hdigits, hsign⟩
    obtain ⟨before, after, happend, hbefore, hafter⟩ := exists_append_trimChars s
    exact ⟨before, sign, digits, after, by rwa [← hs], hdigits, hsign, hbefore, hafter⟩
  · rintro ⟨before, sign, digits, after, rfl, hdigits, hsign, hbefore, hafter⟩
    refine ⟨sign, digits, ?_, hdigits, hsign⟩
    exact trimChars_append hbefore (isBlank_eq_false_of_isNumeral hdigits hsign) hafter

theorem colon_not_mem_of_isNumeral {n : Nat} {s : List Char} (h : IsNumeral n s) : ':' ∉ s := by
  obtain ⟨before, sign, digits, after, rfl, hdigits, hsign, hbefore, hafter⟩ := h
  intro hmem
  rcases List.mem_append.mp hmem with hmem | hmem
  · rcases List.mem_append.mp hmem with hmem | hmem
    · exact absurd (hbefore ':' hmem) (by decide)
    · rcases List.mem_append.mp hmem with hmem | hmem
      · rcases hsign with rfl | rfl
        · cases hmem
        · exact absurd (List.mem_singleton.mp hmem) (by decide)
      · exact absurd (isDigit_of_isDecimal hdigits ':' hmem) (by decide)
  · exact absurd (hafter ':' hmem) (by decide)

theorem afterLastColon_of_not_mem {s : List Char} (h : ':' ∉ s) : afterLastColon s = s := by
  rw [afterLastColon, takeWhile_reverse_eq_self h, List.reverse_reverse]

theorem afterLastColon_append {before after : List Char} (h : ':' ∉ after) :
    afterLastColon (before ++ ':' :: after) = after := by
  rw [afterLastColon, takeWhile_reverse_append h, List.reverse_reverse]

/-! ## Ids -/

/-- Whether a part of a text is what stands behind its last colon; all of it if it has none. -/
inductive IsLastPart (part : List Char) : List Char → Prop
  | whole (hcolon : ':' ∉ part) : IsLastPart part part
  | behind {front : List Char} (hcolon : ':' ∉ part) : IsLastPart part (front ++ ':' :: part)

theorem isLastPart_iff {part s : List Char} : IsLastPart part s ↔ afterLastColon s = part := by
  constructor
  · intro h
    cases h with
    | whole hcolon => exact afterLastColon_of_not_mem hcolon
    | behind hcolon => exact afterLastColon_append hcolon
  · rintro rfl
    by_cases hcolon : ':' ∈ s
    · obtain ⟨front, part, rfl, hpart⟩ := exists_eq_append_last hcolon
      rw [afterLastColon_append hpart]
      exact .behind hpart
    · rw [afterLastColon_of_not_mem hcolon]
      exact .whole hcolon

/-- Whether a value gives a number of 64 bits: as an integer, or as the last part of a text. -/
inductive IsNumericId (n : Nat) : Value → Prop
  | integer (hn : n < 2 ^ 64) : IsNumericId n (.number (.integer n))
  | text {s : String} {part : List Char} (hpart : IsLastPart part s.toList)
      (hnumeral : IsNumeral n part) (hn : n < 2 ^ 64) : IsNumericId n (.string s)

theorem numericId?_eq_some_iff_isNumericId {v : Value} {n : Nat} :
    numericId? v = some n ↔ IsNumericId n v := by
  cases v with
  | number k =>
      rw [numericId?, Number.toNat?_eq_some_iff]
      constructor
      · rintro ⟨hn, rfl⟩
        exact .integer hn
      · rintro ⟨hn⟩
        exact ⟨hn, rfl⟩
  | string s =>
      rw [numericId?, boundedNat?_trimChars_eq_some_iff]
      constructor
      · rintro ⟨hn, hnumeral⟩
        exact .text (isLastPart_iff.mpr rfl) hnumeral hn
      · rintro (_ | ⟨hpart, hnumeral, hn⟩)
        exact ⟨hn, by rwa [isLastPart_iff.mp hpart]⟩
  | _ =>
      constructor
      · intro h
        cases h
      · rintro ⟨⟩

theorem isNumeral_toString (n : Nat) : IsNumeral n (toString n).toList := by
  rw [Nat.toString_eq_repr, Nat.toList_repr]
  exact ⟨[], [], Nat.toDigits 10 n, [], by simp, ⟨0, rfl⟩, .inl rfl, nofun, nofun⟩

theorem isNumericId_toString {n : Nat} (hn : n < 2 ^ 64) : IsNumericId n (.string (toString n)) :=
  .text (.whole (colon_not_mem_of_isNumeral (isNumeral_toString n))) (isNumeral_toString n) hn

theorem isNumericId_behind (front : String) {n : Nat} (hn : n < 2 ^ 64) :
    IsNumericId n (.string (front ++ ":" ++ toString n)) := by
  have hpart : IsLastPart (toString n).toList (front ++ ":" ++ toString n).toList := by
    rw [String.toList_append, String.toList_append, List.append_assoc]
    exact .behind (colon_not_mem_of_isNumeral (isNumeral_toString n))
  exact .text hpart (isNumeral_toString n) hn

/-- Numbers are read from integers and from the last parts of texts, and nowhere else. In particular
a number comes back from its digits, with a prefix and a colon in front of them or without. Where
the id of a flow is a number, its segment is the digits of what is read. -/
theorem numericIds_are_exact :
    (∀ v n, numericId? v = some n ↔ IsNumericId n v) ∧
      (∀ n < 2 ^ 64, numericId? (.ofNat n) = some n ∧
        numericId? (.string (toString n)) = some n ∧
        ∀ front : String, numericId? (.string (front ++ ":" ++ toString n)) = some n) ∧
      ∀ k, segmentId? (.number k) = (numericId? (.number k)).map toString := by
  refine ⟨fun v n => numericId?_eq_some_iff_isNumericId, fun n hn => ⟨?_, ?_, fun front => ?_⟩,
    segmentId?_number⟩
  · exact numericId?_eq_some_iff_isNumericId.mpr (.integer hn)
  · exact numericId?_eq_some_iff_isNumericId.mpr (isNumericId_toString hn)
  · exact numericId?_eq_some_iff_isNumericId.mpr (isNumericId_behind front hn)

/-- The greatest number behind two colons, and a small one spelled out of the ordinary. -/
theorem numericIds_are_exact_limit :
    18446744073709551615 < 2 ^ 64 ∧
      numericId? (.string "openflow:1:18446744073709551615") = some 18446744073709551615 ∧
      IsNumericId 7 (.string "openflow: +007 ") ∧
      numericId? (.string "openflow: +007 ") = some 7 := by
  have hlimit : 18446744073709551615 < 2 ^ 64 := by decide
  have hpart : IsLastPart " +007 ".toList "openflow: +007 ".toList :=
    @IsLastPart.behind " +007 ".toList "openflow".toList (by decide)
  have hblank : ∀ c ∈ [' '], isBlank c = true := List.all_eq_true.mp rfl
  have hseven : IsNumericId 7 (.string "openflow: +007 ") :=
    .text hpart ⟨[' '], ['+'], "007".toList, [' '], rfl, ⟨2, rfl⟩, .inr rfl, hblank, hblank⟩
      (by decide)
  obtain ⟨hreads, hback, -⟩ := numericIds_are_exact
  refine ⟨hlimit, ?_, hseven, (hreads _ 7).mpr hseven⟩
  exact (hback 18446744073709551615 hlimit).2.2 "openflow:1"

end FlowConsole.Record
