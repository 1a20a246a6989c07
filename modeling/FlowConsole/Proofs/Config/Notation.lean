import FlowConsole.Proofs.Config.Grammar
import FlowConsole.Proofs.Config.Numeral
/-!
What the values of variables stand for.

Most texts stand for themselves. Those that do not are, from the first character to the last, a truth
value, a number, a text or a character in quotes, a list or a map.
-/
namespace FlowConsole.Environment

open Config (Check Layer Scalar Setting)

/-- The texts that stand for something else than themselves. -/
inductive IsNotation : List Char → Prop
  | number {s : List Char} (h : IsNumber s) : IsNotation s
  | closed {s : List Char} (h : IsClosed s) : IsNotation s

theorem isBlank_of_isSpace {c : Char} (h : isSpace c = true) : Text.isBlank c = true := by
  rcases isSpace_iff.mp h with rfl | rfl | rfl | rfl | rfl <;> decide

/-- A text without blanks at its ends. -/
structure IsTrimmed (s : List Char) : Prop where
  first : skipSpace s = s
  last : ∀ front rest, s = front ++ rest → skipSpace rest = [] → rest = []
  trim : Text.trimChars s = s

theorem isTrimmed_of_trim {v : String} (h : Text.trim v = v) : IsTrimmed v.toList := by
  have htrim : Text.trimChars v.toList = v.toList := by
    rw [← String.ofList_inj, String.ofList_toList]
    exact h
  have hsublist := Text.dropEndWhile_sublist (p := Text.isBlank) (v.toList.dropWhile Text.isBlank)
  have hfront : v.toList.dropWhile Text.isBlank = v.toList := by
    refine (List.dropWhile_sublist Text.isBlank).eq_of_length_le ?_
    have hlength := hsublist.length_le
    rwa [show Text.dropEndWhile Text.isBlank (v.toList.dropWhile Text.isBlank) = v.toList from htrim]
      at hlength
  have hend : Text.dropEndWhile Text.isBlank v.toList = v.toList := by
    rw [Text.trimChars, hfront] at htrim
    exact htrim
  refine ⟨?_, ?_, htrim⟩
  · rw [List.dropWhile_eq_self_iff] at hfront
    refine List.dropWhile_eq_self_iff.mpr fun hpos hspace => ?_
    exact hfront hpos (isBlank_of_isSpace hspace)
  · intro front rest happend hrest
    by_contra hne
    obtain ⟨before, c, rfl⟩ := List.eq_nil_or_concat rest |>.resolve_left hne
    have hspace := List.dropWhile_eq_nil_iff.mp hrest c (by simp)
    have hblank := Text.not_of_dropEndWhile_eq_self hend c (by rw [happend]; simp)
    rw [isBlank_of_isSpace hspace] at hblank
    cases hblank

/-- A text that is in no notation stands for itself. -/
theorem settingOf_of_not_isNotation {v : String} (htrim : Text.trim v = v)
    (h : ¬ IsNotation v.toList) : settingOf v = .scalar .environment (.text v) := by
  obtain ⟨hfirst, hlast, htrimmed⟩ := isTrimmed_of_trim htrim
  unfold settingOf
  split
  · rename_i value hread
    obtain ⟨t, after, ht, hafter, hvalue⟩ := (takes _).value_cases hfirst hread
    obtain rfl := hlast t after ht hafter
    rw [List.append_nil] at ht
    subst ht
    rcases hvalue with hclosed | ⟨-, rfl, -⟩
    · exact absurd (.closed hclosed) h
    · rw [htrimmed, word_of_not_isNumber fun hnumber => h (.number hnumber), String.ofList_toList]
  · rfl

/-! ## Notations -/

theorem readItems?_eq_some {fuel : Nat} {seen : List Setting} {s rest : List Char} {value : Setting}
    (h : readItems? fuel seen s = some (value, rest)) :
    ∃ items, value = .sequence .environment items := by
  induction fuel generalizing seen s with
  | zero => cases h
  | succ fuel ih =>
      unfold readItems? at h
      split at h
      · exact ⟨_, (Prod.mk.inj (Option.some.inj h)).1.symm⟩
      · split at h
        · exact ih h
        · exact ⟨_, (Prod.mk.inj (Option.some.inj h)).1.symm⟩
        · cases h

theorem readEntries?_eq_some {fuel : Nat} {seen : List (String × Setting)} {s rest : List Char}
    {value : Setting} (h : readEntries? fuel seen s = some (value, rest)) :
    ∃ entries, value = .map .environment entries := by
  induction fuel generalizing seen s with
  | zero => cases h
  | succ fuel ih =>
      unfold readEntries? at h
      split at h
      · exact ⟨_, (Prod.mk.inj (Option.some.inj h)).1.symm⟩
      · split at h
        · cases h
        · split at h
          · split at h
            · exact ih h
            · exact ⟨_, (Prod.mk.inj (Option.some.inj h)).1.symm⟩
            · cases h
          · cases h

theorem isNoText_collection {fuel : Nat} {c : Char} {s rest : List Char} {value : Setting}
    (hc : c = '[' ∨ c = '\x7b') (h : readValue? fuel (c :: s) = some (value, rest)) :
    IsNoText value := by
  cases fuel with
  | zero => cases h
  | succ fuel =>
      obtain ⟨⟨v, after⟩, hread, heq⟩ : ∃ r : Setting × List Char,
          (readItems? fuel [] s = some r ∨ readEntries? fuel [] s = some r) ∧
            (r.1, skipSpace r.2) = (value, rest) := by
        rcases hc with rfl | rfl
        · obtain ⟨r, hread, heq⟩ := Option.map_eq_some_iff.mp h
          exact ⟨r, .inl hread, heq⟩
        · obtain ⟨r, hread, heq⟩ := Option.map_eq_some_iff.mp h
          exact ⟨r, .inr hread, heq⟩
      obtain ⟨rfl, -⟩ := Prod.mk.inj heq
      rcases hread with hread | hread
      · obtain ⟨items, rfl⟩ := readItems?_eq_some hread
        simp [IsNoText, Check.text, Check.textOf, Check.refuse]
      · obtain ⟨entries, rfl⟩ := readEntries?_eq_some hread
        simp [IsNoText, Check.text, Check.textOf, Check.refuse]

theorem settingOf_of_readValue? {v : String} {value : Setting}
    (h : readValue? (2 * v.toList.length + 2) v.toList = some (value, [])) :
    settingOf v = value := by
  rw [String.length_toList] at h
  unfold settingOf
  rw [h]

theorem settingOf_of_readScalar? {v : String} (hspace : skipSpace v.toList = v.toList)
    (hhead : ∀ c, v.toList.head? = some c → c ≠ '[' ∧ c ≠ '\x7b') {x : Scalar}
    (h : readScalar? v.toList = some (x, [])) : settingOf v = .scalar .environment x :=
  settingOf_of_readValue? (readValue?_of_readScalar? _ hspace hhead h)

theorem IsNumber.isWord {s : List Char} (h : IsNumber s) : IsWord s where
  notSeparator c hc := by
    rw [Bool.eq_false_iff]
    intro hsep
    rcases isSeparator_iff.mp hsep with rfl | rfl | rfl | rfl | rfl <;>
      exact h.not_mem (by decide) (by decide) hc
  first c hc := by
    have hmem := List.mem_of_head? hc
    refine ⟨?_, ?_, ?_⟩
    · rw [Bool.eq_false_iff]
      intro hspace
      rcases isSpace_iff.mp hspace with rfl | rfl | rfl | rfl | rfl <;>
        exact h.not_mem (by decide) (by decide) hmem
    · rintro rfl
      exact h.not_mem (by decide) (by decide) hmem
    · rintro rfl
      exact h.not_mem (by decide) (by decide) hmem
  notTruth b hb := by
    obtain ⟨t, rfl⟩ := hb
    cases b with
    | true => exact h.not_mem (c := 't') (by decide) (by decide) (List.mem_append_left t (by decide))
    | false => exact h.not_mem (c := 'f') (by decide) (by decide) (List.mem_append_left t (by decide))

theorem text_settingOf_ne_of_literal {v : String} (hspace : skipSpace v.toList = v.toList)
    (h : IsLiteral v.toList) : Check.text (settingOf v) ≠ .ok v := by
  generalize hs : v.toList = s at h
  cases h with
  | truth b =>
      obtain rfl := String.toList_inj.mp hs
      cases b <;> exact nofun
  | @quoted s h =>
      obtain ⟨t, ht⟩ := h.read [] [] (s.length + 1) (by omega)
      rw [List.append_nil] at ht
      have hread : readScalar? v.toList = some (.text t, []) := by
        rw [hs]
        change (readQuoted? (s.length + 1) [] s).map _ = _
        rw [ht]
        rfl
      rw [settingOf_of_readScalar? hspace (by rw [hs]; rintro c ⟨⟩; decide) hread]
      intro hsame
      obtain rfl : t = v := Except.ok.inj hsame
      obtain ⟨q, rfl, -, hlength⟩ := readQuoted?_eq_some ht
      rw [← String.length_toList, hs, List.append_nil] at hlength
      simp only [List.length_cons, List.length_nil] at hlength
      omega
  | character c =>
      have hread : readScalar? v.toList = some (.character c, []) := by
        rw [hs]
        rfl
      rw [settingOf_of_readScalar? hspace (by rw [hs]; rintro c ⟨⟩; decide) hread]
      intro hsame
      have htext : String.singleton c = v := Except.ok.inj hsame
      rw [← htext] at hs
      simp at hs

/-- A text in some notation does not come out as what it was. -/
theorem text_settingOf_ne {v : String} (htrim : Text.trim v = v) (h : IsNotation v.toList) :
    Check.text (settingOf v) ≠ .ok v := by
  obtain ⟨hfirst, -, htrimmed⟩ := isTrimmed_of_trim htrim
  have hcollection : ∀ {c s}, c = '[' ∨ c = '\x7b' → v.toList = c :: s → IsClosed (c :: s) →
      Check.text (settingOf v) ≠ .ok v := by
    intro c s hc hs hclosed
    obtain ⟨value, hread⟩ := hclosed.read [] (2 * (c :: s).length + 2) (by omega)
    rw [List.append_nil] at hread
    rw [settingOf_of_readValue? (by rw [hs]; exact hread)]
    exact isNoText_collection hc hread v
  generalize hs : v.toList = s at h
  cases h with
  | number h =>
      have hhead : ∀ c, v.toList.head? = some c → c ≠ '[' ∧ c ≠ '\x7b' := by
        intro c hc
        rw [hs] at hc
        constructor <;> rintro rfl <;>
          cases h.isWord.notSeparator _ (List.mem_of_head? hc)
      have hread : readScalar? (s ++ []) = some (word (Text.trimChars s), []) :=
        h.isWord.read nofun
      rw [List.append_nil, ← hs, htrimmed] at hread
      rw [settingOf_of_readScalar? hfirst hhead hread, hs]
      exact isNoText_word h _ v
  | closed h =>
      cases h with
      | literal h => exact text_settingOf_ne_of_literal hfirst (hs ▸ h)
      | list h => exact hcollection (.inl rfl) hs (.list h)
      | map h => exact hcollection (.inr rfl) hs (.map h)

end FlowConsole.Environment
