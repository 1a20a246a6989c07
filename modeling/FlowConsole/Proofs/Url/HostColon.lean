import FlowConsole.Proofs.Text.Composition
import FlowConsole.Proofs.Text.Split
import FlowConsole.Proofs.Text.Utf8
import FlowConsole.Proofs.Url.Percent
import FlowConsole.Url.Reader
/-!
No host but an address in brackets has a colon.

A colon is a character of no domain name, and nothing on the way from the text of a host to the name
takes it away: it is no part of an encoded byte, it is mapped to itself, it is not composed with
anything, and Punycode keeps it. So it is still there when the name is looked at.
-/
namespace FlowConsole.Url

open Text

theorem mem_percentDecode_colon {s : List Char} (h : ':' ∈ s) : 0x3A ∈ percentDecode s := by
  have hdigit : hexValue? ':' = none := by decide
  fun_induction percentDecode s with
  | case1 => simp at h
  | case2 a b rest x y ha hb ih =>
      rcases List.mem_cons.mp h with heq | h
      · exact absurd heq (by decide)
      rcases List.mem_cons.mp h with rfl | h
      · simp [hdigit] at hb
      rcases List.mem_cons.mp h with rfl | h
      · simp [hdigit] at ha
      exact List.mem_cons_of_mem _ (ih h)
  | case3 a b rest hnot ih =>
      rcases List.mem_cons.mp h with heq | h
      · exact absurd heq (by decide)
      exact List.mem_append_right _ (ih h)
  | case4 c rest hnot ih =>
      rcases List.mem_cons.mp h with rfl | h
      · exact List.mem_append_left _ (by decide)
      · exact List.mem_append_right _ (ih h)

/-! ## Punycode -/

namespace Punycode

theorem decodeDelta_eq_some {bias : Nat} {s rest : List Char} {i w k j : Nat}
    (h : decodeDelta bias s i w k = some (j, rest)) :
    ∃ used, s = used ++ rest ∧ ∀ c ∈ used, (digitValue? c).isSome := by
  induction s generalizing i w k with
  | nil => simp [decodeDelta] at h
  | cons c s ih =>
      rw [decodeDelta] at h
      cases hdigit : digitValue? c with
      | none => simp [hdigit] at h
      | some d =>
          rw [hdigit] at h
          dsimp only at h
          split at h
          · simp at h
          · split at h
            · obtain ⟨-, rfl⟩ := Prod.mk.inj (Option.some.inj h)
              exact ⟨[c], rfl, by simp [hdigit]⟩
            · obtain ⟨used, rfl, hused⟩ := ih h
              exact ⟨c :: used, rfl, List.forall_mem_cons.mpr ⟨by simp [hdigit], hused⟩⟩

theorem decodeFrom_eq_some {fuel : Nat} {out s text : List Char} {n i bias : Nat}
    (h : decodeFrom fuel out s n i bias = some text) :
    (∀ c ∈ out, c ∈ text) ∧ ∀ c ∈ s, (digitValue? c).isSome := by
  induction fuel generalizing out s n i bias with
  | zero => simp [decodeFrom] at h
  | succ fuel ih =>
      rw [decodeFrom] at h
      split at h
      · rename_i hempty
        obtain rfl := Option.some.inj h
        exact ⟨fun c hc => hc, by simp [List.isEmpty_iff.mp hempty]⟩
      · split at h
        · simp at h
        · rename_i j rest hdelta
          obtain ⟨used, rfl, hused⟩ := decodeDelta_eq_some hdelta
          dsimp only at h
          split at h
          · simp at h
          · obtain ⟨hkept, hdigits⟩ := ih h
            refine ⟨?_, ?_⟩
            · intro c hc
              apply hkept
              rw [← List.take_append_drop (j % (out.length + 1)) out, List.mem_append] at hc
              exact hc.elim (List.mem_append_left _)
                fun hc => List.mem_append_right _ (List.mem_cons_of_mem _ hc)
            · intro c hc
              exact (List.mem_append.mp hc).elim (hused c) (hdigits c)

theorem mem_decode_colon {code text : List Char} (hdecode : decode? code = some text)
    (h : ':' ∈ code) : ':' ∈ text := by
  have hdigit : (digitValue? ':').isSome = false := by decide
  unfold decode? at hdecode
  by_cases hhyphen : '-' ∈ code
  · obtain ⟨basic, tail, rfl, htail⟩ := exists_eq_append_last hhyphen
    have hlength : (basic ++ '-' :: tail).length = basic.length + (tail.length + 1) := by simp
    have hbasic : basic.length + (tail.length + 1) - tail.length - 1 = basic.length := by omega
    have hne : ¬ tail.length = basic.length + (tail.length + 1) := by omega
    simp only [takeWhile_reverse_append htail, List.length_reverse, hlength, hbasic, if_neg hne,
      List.reverse_reverse, List.take_left] at hdecode
    split at hdecode
    · obtain ⟨hkept, hdigits⟩ := decodeFrom_eq_some hdecode
      rcases List.mem_append.mp h with h | h
      · exact hkept ':' h
      · rcases List.mem_cons.mp h with h | h
        · exact absurd h (by decide)
        · exact absurd (hdigits ':' h) (by simp [hdigit])
    · simp at hdecode
  · simp only [takeWhile_reverse_eq_self hhyphen, List.length_reverse, if_true, List.all_nil]
      at hdecode
    exact absurd ((decodeFrom_eq_some hdecode).2 ':' h) (by simp [hdigit])

theorem mem_encode_colon {s : List Char} (h : ':' ∈ s) : ':' ∈ encode s := by
  have hbasic : ':' ∈ s.filter fun c => c.toNat < 0x80 := List.mem_filter.mpr ⟨h, by decide⟩
  have hne : (s.filter fun c => c.toNat < 0x80).isEmpty = false := by
    rw [List.isEmpty_eq_false_iff]
    exact List.ne_nil_of_mem hbasic
  unfold encode
  simp only [hne, Bool.false_eq_true, if_false]
  exact List.mem_append_left _ (List.mem_append_left _ hbasic)

end Punycode

/-! ## Names -/

theorem mem_labelText?_colon {label text : List Char} (htext : labelText? label = some text)
    (h : ':' ∈ label) : ':' ∈ text := by
  unfold labelText? at htext
  split at htext
  · rename_i code
    obtain ⟨hdecode, -⟩ := Option.filter_eq_some_iff.mp htext
    apply Punycode.mem_decode_colon hdecode
    simpa using h
  · split at htext
    · obtain rfl := Option.some.inj htext
      exact h
    · simp at htext

theorem mem_labelToAscii_colon {text : List Char} (h : ':' ∈ text) : ':' ∈ labelToAscii text := by
  unfold labelToAscii
  split
  · exact h
  · exact List.mem_append_right _ (Punycode.mem_encode_colon h)

theorem mem_flatten_mapDomainChar_colon {s : List Char} {parts : List (List Char)}
    (hparts : s.mapM mapDomainChar = some parts) (h : ':' ∈ s) : ':' ∈ parts.flatten := by
  obtain ⟨part, hpart, hmap⟩ := exists_mem_of_mapM hparts h
  obtain rfl : [':'] = part := Option.some.inj hmap
  exact List.mem_flatten.mpr ⟨[':'], hpart, List.mem_cons_self⟩

theorem domainToAscii_colon {s : List Char} (h : ':' ∈ s) : domainToAscii s = none := by
  unfold domainToAscii
  cases hparts : s.mapM mapDomainChar with
  | none => rfl
  | some parts =>
      have hname := Composition.mem_normalise_colon (mem_flatten_mapDomainChar_colon hparts h)
      obtain ⟨label, hlabel, hcolon⟩ :=
        exists_mem_splitWhere (p := (· == '.')) hname (by decide)
      simp only [Option.bind_eq_bind, Option.bind_some]
      cases hlabels : (splitOn '.' (Composition.normalise parts.flatten)).mapM labelText? with
      | none => rfl
      | some labels =>
          obtain ⟨text, htext, hread⟩ := exists_mem_of_mapM hlabels hlabel
          have hascii := mem_labelToAscii_colon (mem_labelText?_colon hread hcolon)
          have hmem : ':' ∈ ['.'].intercalate (labels.map labelToAscii) :=
            mem_intercalate ['.'] hascii (List.mem_map_of_mem htext)
          have hforbidden : (['.'].intercalate (labels.map labelToAscii)).any forbiddenInDomain =
              true := List.any_eq_true.mpr ⟨':', hmem, by decide⟩
          simp only [Option.bind_some, hforbidden, if_true, ite_self]

/-- A host with a colon outside brackets is a fault. -/
theorem hostOfText_colon {s : List Char} (h : ':' ∈ s) (hbracket : s.head? ≠ some '[') :
    hostOfText s = .error .invalidDomain := by
  have hnone : ((Utf8.decode? (percentDecode s)).bind fun t => domainToAscii t.toList) = none := by
    cases hdecode : Utf8.decode? (percentDecode s) with
    | none => rfl
    | some t =>
        have hmem := Utf8.mem_of_decode? (by decide) (mem_percentDecode_colon h) hdecode
        exact domainToAscii_colon hmem
  unfold hostOfText
  split
  · exact absurd rfl hbracket
  · rw [hnone]

end FlowConsole.Url
