import FlowConsole.Proofs.Action
import FlowConsole.Proofs.Text.Utf8
import FlowConsole.Proofs.Url.Percent
import FlowConsole.Proofs.Url.PlainHost
/-!
Names of letters, digits, hyphens and dots are plain hosts.

Such a name is mapped to lower case and otherwise kept, unless a label of it claims to be Punycode.
Whether it is a domain or an IPv4 address is told by its last label.
-/
namespace FlowConsole.Url

open Text

def isNameChar (c : Char) : Bool := c.isAlphanum || c == '-' || c == '.'

def lowerName (s : List Char) : List Char := s.map Char.toLower

/-- A host name in ASCII without Punycode. -/
structure IsHostName (s : List Char) : Prop where
  chars : ∀ c ∈ s, isNameChar c = true
  plain : ∀ code, 'x' :: 'n' :: '-' :: '-' :: code ∉ splitOn '.' (lowerName s)

instance (s : List Char) : Decidable (IsHostName s) :=
  decidable_of_iff (s.all isNameChar = true ∧
    ((splitOn '.' (lowerName s)).all fun label => label.take 4 != ['x', 'n', '-', '-']) = true) <| by
  simp only [List.all_eq_true, bne_iff_ne]
  constructor
  · rintro ⟨hchars, hplain⟩
    exact ⟨hchars, fun code hcode => hplain _ hcode rfl⟩
  · rintro ⟨hchars, hplain⟩
    refine ⟨hchars, ?_⟩
    intro label hlabel htake
    apply hplain (label.drop 4)
    have hsplit := List.take_append_drop 4 label
    rw [htake] at hsplit
    rwa [← hsplit] at hlabel

theorem lt_of_isAlphanum {c : Char} (hc : c.isAlphanum = true) : c.toNat < 0x80 := by
  delta Char.isAlphanum Char.isAlpha Char.isUpper Char.isLower Char.isDigit at hc
  simp only [Bool.or_eq_true, decide_eq_true_eq, Bool.and_eq_true, UInt32.le_iff_toNat_le,
    ge_iff_le] at hc
  have hval : c.val.toNat = c.toNat := rfl
  rcases hc with (h | h) | h
  all_goals
    simp at h
    omega

theorem lt_of_isNameChar {c : Char} (hc : isNameChar c = true) : c.toNat < 0x80 := by
  simp only [isNameChar, Bool.or_eq_true, beq_iff_eq] at hc
  rcases hc with (h | rfl) | rfl
  · exact lt_of_isAlphanum h
  · decide
  · decide

theorem toLower_of_isNameChar {c : Char} (hc : isNameChar c = true) :
    c.toLower.toNat < 0x80 ∧ forbiddenInDomain c.toLower = false := by
  have hall : ∀ n < 0x80, isNameChar (Char.ofNat n) = true →
      (Char.ofNat n).toLower.toNat < 0x80 ∧ forbiddenInDomain (Char.ofNat n).toLower = false := by
    decide +kernel
  exact of_forall_ascii (P := fun c => isNameChar c = true →
    c.toLower.toNat < 0x80 ∧ forbiddenInDomain c.toLower = false) hall (lt_of_isNameChar hc) hc

theorem turnsDirection_ascii {s : List Char} (h : ∀ c ∈ s, c.toNat < 0x80) :
    turnsDirection s = false := by
  have hletters : (rightToLeft.ranges.all fun r => 0x80 ≤ r.1) = true := by decide +kernel
  have hdigits : (arabicDigits.ranges.all fun r => 0x80 ≤ r.1) = true := by decide +kernel
  have hout : ∀ set : CharSet, (set.ranges.all fun r => 0x80 ≤ r.1) = true →
      ∀ c : Char, c.toNat < 0x80 → set.contains c = false := by
    intro set hset c hc
    apply List.any_eq_false.mpr
    intro r hr
    have hlow := List.all_eq_true.mp hset r hr
    simp only [decide_eq_true_eq] at hlow
    simp only [Bool.and_eq_true, decide_eq_true_eq, not_and]
    omega
  apply List.any_eq_false.mpr
  intro c hc
  simp [hout rightToLeft hletters c (h c hc), hout arabicDigits hdigits c (h c hc)]

namespace IsHostName

variable {s : List Char}

theorem ascii (h : IsHostName s) : ∀ c ∈ s, c.toNat < 0x80 :=
  fun c hc => lt_of_isNameChar (h.chars c hc)

theorem lower_ascii (h : IsHostName s) : ∀ c ∈ lowerName s, c.toNat < 0x80 := by
  intro c hc
  obtain ⟨d, hd, rfl⟩ := List.mem_map.mp hc
  exact (toLower_of_isNameChar (h.chars d hd)).1

theorem noSigns (h : IsHostName s) : ∀ c ∈ s, isSign c = false := by
  intro c hc
  have hall : ∀ n < 0x80, isNameChar (Char.ofNat n) = true → isSign (Char.ofNat n) = false := by
    decide +kernel
  exact of_forall_ascii (P := fun c => isNameChar c = true → isSign c = false) hall
    (h.ascii c hc) (h.chars c hc)

theorem label_ascii (h : IsHostName s) {label : List Char}
    (hmem : label ∈ splitOn '.' (lowerName s)) : ∀ c ∈ label, c.toNat < 0x80 := by
  intro c hc
  exact h.lower_ascii c ((sublist_of_mem_splitWhere hmem).subset hc)

theorem mapM_mapDomainChar (h : IsHostName s) :
    s.mapM mapDomainChar = some ((lowerName s).map fun c => [c]) := by
  rw [lowerName, List.map_map]
  apply mapM_eq_pure_map
  intro c hc
  rw [mapDomainChar, if_pos (h.ascii c hc)]
  rfl

theorem mapM_labelText? (h : IsHostName s) :
    (splitOn '.' (lowerName s)).mapM labelText? = some (splitOn '.' (lowerName s)) := by
  have hlabel : ∀ label ∈ splitOn '.' (lowerName s), labelText? label = some label := by
    intro label hmem
    have hascii : isAscii label = true := by simpa [isAscii] using h.label_ascii hmem
    unfold labelText?
    split
    · rename_i code
      exact absurd hmem (h.plain code)
    · simp [hascii]
  rw [mapM_eq_pure_map (g := fun label => label) hlabel, List.map_id']
  rfl

theorem domainToAscii_eq (h : IsHostName s) : domainToAscii s = some (lowerName s) := by
  have hnormal : Composition.normalise (lowerName s) = lowerName s := by
    unfold Composition.normalise
    rw [if_pos]
    apply List.all_eq_true.mpr
    intro c hc
    have hlower := h.lower_ascii c hc
    simp only [decide_eq_true_eq]
    omega
  have hturns : (splitOn '.' (lowerName s)).any turnsDirection = false := by
    apply List.any_eq_false.mpr
    intro label hmem
    simp [turnsDirection_ascii (h.label_ascii hmem)]
  have hmap : (splitOn '.' (lowerName s)).map labelToAscii = splitOn '.' (lowerName s) := by
    have hlabel : ∀ label ∈ splitOn '.' (lowerName s), labelToAscii label = id label := by
      intro label hmem
      have hascii : isAscii label = true := by simpa [isAscii] using h.label_ascii hmem
      exact if_pos hascii
    rw [List.map_congr_left hlabel, List.map_id]
  have hforbidden : (lowerName s).any forbiddenInDomain = false := by
    apply List.any_eq_false.mpr
    intro c hc
    obtain ⟨d, hd, rfl⟩ := List.mem_map.mp hc
    simp [(toLower_of_isNameChar (h.chars d hd)).2]
  have hflat : ((lowerName s).map fun c => [c]).flatten = lowerName s := by
    rw [← List.flatMap_def]
    simp
  unfold domainToAscii
  rw [h.mapM_mapDomainChar]
  simp only [Option.bind_eq_bind, Option.bind_some, hflat, hnormal, h.mapM_labelText?, hturns,
    Bool.false_and, Bool.false_eq_true, if_false, hmap, intercalate_splitOn, hforbidden]

theorem hostOfText_eq (h : IsHostName s) :
    hostOfText s =
      if (lowerName s).isEmpty then .error .emptyHost
      else if endsInNumber (lowerName s) then
        (ipv4OfText? (lowerName s)).elim (.error .invalidIpv4) fun address => .ok (.ipv4 address)
      else .ok (.domain (String.ofList (lowerName s))) := by
  have hplain : ∀ c ∈ s, c ≠ '%' ∧ c ≠ '[' := by
    intro c hc
    have hname := h.chars c hc
    constructor <;> (rintro rfl; revert hname; decide)
  have hbytes : percentDecode s = Utf8.encode s := by
    apply percentDecode_eq_encode
    apply holdsByte_eq_false
    intro c hc
    exact (hplain c hc).1
  unfold hostOfText
  split
  · rename_i rest
    exact absurd rfl (hplain '[' List.mem_cons_self).2
  · rw [hbytes, Utf8.decode?_encode]
    simp only [Option.bind_some, String.toList_ofList, h.domainToAscii_eq]
    cases ipv4OfText? (lowerName s) <;> rfl

/-- A name that does not end in a number is the host it names, in lower case. -/
theorem isPlainHost_domain (h : IsHostName s) (hne : s ≠ [])
    (hnumber : endsInNumber (lowerName s) = false) :
    IsPlainHost s (.domain (String.ofList (lowerName s))) := by
  refine ⟨h.noSigns, ?_⟩
  have hempty : (lowerName s).isEmpty = false := by simp [lowerName, hne]
  rw [h.hostOfText_eq, hempty, hnumber]
  rfl

theorem isPlainHost_ipv4 (h : IsHostName s) (hne : s ≠ [])
    (hnumber : endsInNumber (lowerName s) = true) {address : Nat}
    (haddress : ipv4OfText? (lowerName s) = some address) : IsPlainHost s (.ipv4 address) := by
  refine ⟨h.noSigns, ?_⟩
  have hempty : (lowerName s).isEmpty = false := by simp [lowerName, hne]
  rw [h.hostOfText_eq, hempty, hnumber, haddress]
  rfl

end IsHostName

end FlowConsole.Url
