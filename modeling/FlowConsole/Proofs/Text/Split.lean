import Mathlib.Data.List.TakeWhile
import FlowConsole.Text.Blank
import FlowConsole.Text.Split
/-!
Laws of trimming and splitting: how both act on texts put together, and that splitting undoes
joining.
-/
namespace FlowConsole.Text

variable {p : Char → Bool}

theorem dropEndWhile_append_cons (s t : List Char) {c : Char} (hc : p c = false) :
    dropEndWhile p (s ++ c :: t) = s ++ c :: dropEndWhile p t := by
  have hfront : (c :: s.reverse).dropWhile p = c :: s.reverse := by simp [hc]
  unfold dropEndWhile
  rw [List.reverse_append, List.reverse_cons, List.append_assoc, List.singleton_append,
    List.dropWhile_append, hfront]
  split
  · rename_i hempty
    simp [List.isEmpty_iff.mp hempty]
  · simp

theorem dropEndWhile_sublist (s : List Char) : (dropEndWhile p s).Sublist s := by
  have h := (List.dropWhile_sublist (l := s.reverse) p).reverse
  rwa [List.reverse_reverse] at h

theorem dropEndWhile_eq_self {s : List Char} (h : ∀ c, s.getLast? = some c → p c = false) :
    dropEndWhile p s = s := by
  cases hs : s.reverse with
  | nil => simp [List.reverse_eq_nil_iff.mp hs]
  | cons c rest =>
      have hlast : s.getLast? = some c := by
        rw [List.getLast?_eq_head?_reverse, hs]
        rfl
      unfold dropEndWhile
      rw [hs, List.dropWhile_cons, if_neg (by simp [h c hlast]), ← hs, List.reverse_reverse]

theorem not_of_dropEndWhile_eq_self {s : List Char} (h : dropEndWhile p s = s) :
    ∀ c, s.getLast? = some c → p c = false := by
  intro c hc
  have hreverse : s.reverse.dropWhile p = s.reverse := by
    rw [← List.reverse_eq_iff]
    exact h
  have hhead := List.head?_dropWhile_not p s.reverse
  rw [hreverse, ← List.getLast?_eq_head?_reverse, hc] at hhead
  simpa using hhead

theorem dropEndWhile_append_of_pos (s : List Char) {t : List Char} (ht : ∀ c ∈ t, p c = true) :
    dropEndWhile p (s ++ t) = dropEndWhile p s := by
  unfold dropEndWhile
  rw [List.reverse_append, List.dropWhile_append_of_pos (by simpa using ht)]

theorem exists_append_dropEndWhile (p : Char → Bool) (s : List Char) :
    ∃ after, s = dropEndWhile p s ++ after ∧ ∀ c ∈ after, p c = true := by
  refine ⟨(s.reverse.takeWhile p).reverse, ?_, ?_⟩
  · rw [dropEndWhile, ← List.reverse_append, List.takeWhile_append_dropWhile, List.reverse_reverse]
  · intro c hc
    exact List.mem_takeWhile_imp (List.mem_reverse.mp hc)

theorem exists_append_trimChars (s : List Char) :
    ∃ before after, s = before ++ trimChars s ++ after ∧ (∀ c ∈ before, isBlank c = true) ∧
      ∀ c ∈ after, isBlank c = true := by
  obtain ⟨after, hafter, hblank⟩ := exists_append_dropEndWhile isBlank (s.dropWhile isBlank)
  refine ⟨s.takeWhile isBlank, after, ?_, fun c hc => List.mem_takeWhile_imp hc, hblank⟩
  rw [trimChars, List.append_assoc, ← hafter, List.takeWhile_append_dropWhile]

theorem trimChars_append {before s after : List Char} (hbefore : ∀ c ∈ before, isBlank c = true)
    (hs : ∀ c ∈ s, isBlank c = false) (hafter : ∀ c ∈ after, isBlank c = true) :
    trimChars (before ++ s ++ after) = s := by
  have hend : dropEndWhile isBlank (s ++ after) = s := by
    rw [dropEndWhile_append_of_pos s hafter]
    exact dropEndWhile_eq_self fun c hc => hs c (List.mem_of_getLast? hc)
  rw [trimChars, List.append_assoc, List.dropWhile_append_of_pos hbefore]
  cases s with
  | nil => rw [List.nil_append, List.dropWhile_eq_nil_iff.mpr hafter, dropEndWhile_nil]
  | cons c s =>
      rw [List.cons_append, List.dropWhile_cons_of_neg (by simp [hs c List.mem_cons_self])]
      exact hend

theorem trimChars_eq_self {s : List Char} (hfirst : ∀ c, s.head? = some c → isBlank c = false)
    (hlast : ∀ c, s.getLast? = some c → isBlank c = false) : trimChars s = s := by
  have hfront : s.dropWhile isBlank = s := by
    cases s with
    | nil => rfl
    | cons c s => rw [List.dropWhile_cons_of_neg (by simp [hfirst c rfl])]
  rw [trimChars, hfront]
  exact dropEndWhile_eq_self hlast

theorem takeWhile_append_of_ends {s rest : List Char} (hs : ∀ c ∈ s, p c = true)
    (hrest : ∀ c, rest.head? = some c → p c = false) : (s ++ rest).takeWhile p = s := by
  rw [List.takeWhile_append_of_pos hs]
  cases rest with
  | nil => exact List.append_nil s
  | cons c rest => rw [List.takeWhile_cons_of_neg (by simp [hrest c rfl]), List.append_nil]

theorem drop_length_takeWhile (s : List Char) : s.drop (s.takeWhile p).length = s.dropWhile p := by
  induction s with
  | nil => rfl
  | cons c s ih =>
      rw [List.takeWhile_cons, List.dropWhile_cons]
      split
      · exact ih
      · rfl

theorem splitWhere_cons_sep (t : List Char) {c : Char} (hc : p c = true) :
    splitWhere p (c :: t) = [] :: splitWhere p t := by
  simp [splitWhere, hc]

theorem splitWhere_ne_nil (s : List Char) : splitWhere p s ≠ [] := by
  induction s with
  | nil => simp
  | cons c t ih =>
      by_cases hc : p c
      · simp [splitWhere_cons_sep t hc]
      · obtain ⟨part, rest, ht⟩ := List.exists_cons_of_ne_nil ih
        unfold splitWhere at ht ⊢
        simp [List.foldr_cons, hc, ht]

theorem splitWhere_cons_of_not {c : Char} (hc : p c = false) {t part : List Char}
    {rest : List (List Char)} (ht : splitWhere p t = part :: rest) :
    splitWhere p (c :: t) = (c :: part) :: rest := by
  unfold splitWhere at ht ⊢
  simp [List.foldr_cons, hc, ht]

theorem splitWhere_eq_singleton {s : List Char} (h : ∀ c ∈ s, p c = false) :
    splitWhere p s = [s] := by
  induction s with
  | nil => rfl
  | cons c t ih =>
      have ht := ih fun d hd => h d (List.mem_cons_of_mem c hd)
      exact splitWhere_cons_of_not (h c List.mem_cons_self) ht

theorem splitWhere_append_cons {sep : Char} (hsep : p sep = true) (s t : List Char) :
    splitWhere p (s ++ sep :: t) = splitWhere p s ++ splitWhere p t := by
  induction s with
  | nil => exact splitWhere_cons_sep t hsep
  | cons c s ih =>
      by_cases hc : p c
      · rw [List.cons_append, splitWhere_cons_sep _ hc, splitWhere_cons_sep s hc, ih,
          List.cons_append]
      · obtain ⟨part, rest, hs⟩ := List.exists_cons_of_ne_nil (splitWhere_ne_nil (p := p) s)
        have hboth : splitWhere p (s ++ sep :: t) = part :: (rest ++ splitWhere p t) := by
          rw [ih, hs, List.cons_append]
        rw [List.cons_append, splitWhere_cons_of_not (by simpa using hc) hboth,
          splitWhere_cons_of_not (by simpa using hc) hs, List.cons_append]

/-- What has no separator in it stays with the last part of what is in front of it. -/
theorem exists_splitWhere_append (s : List Char) {t : List Char} (ht : ∀ c ∈ t, p c = false) :
    ∃ before last, splitWhere p (s ++ t) = before ++ [last ++ t] := by
  induction s with
  | nil => exact ⟨[], [], splitWhere_eq_singleton ht⟩
  | cons c s ih =>
      obtain ⟨before, last, hs⟩ := ih
      by_cases hc : p c
      · exact ⟨[] :: before, last, by rw [List.cons_append, splitWhere_cons_sep _ hc, hs]; rfl⟩
      · rw [List.cons_append]
        cases before with
        | nil =>
            exact ⟨[], c :: last, splitWhere_cons_of_not (by simpa using hc) hs⟩
        | cons first before =>
            exact ⟨(c :: first) :: before, last, splitWhere_cons_of_not (by simpa using hc) hs⟩

theorem sublist_of_mem_splitWhere {s part : List Char} (hpart : part ∈ splitWhere p s) :
    part.Sublist s := by
  induction s generalizing part with
  | nil => simp_all
  | cons d t ih =>
      by_cases hd : p d
      · rw [splitWhere_cons_sep t hd, List.mem_cons] at hpart
        rcases hpart with rfl | hpart
        · exact List.nil_sublist _
        · exact (ih hpart).cons d
      · obtain ⟨first, rest, ht⟩ := List.exists_cons_of_ne_nil (splitWhere_ne_nil (p := p) t)
        rw [splitWhere_cons_of_not (by simpa using hd) ht, List.mem_cons] at hpart
        rcases hpart with rfl | hpart
        · exact (ih (by simp [ht])).cons_cons d
        · exact (ih (by simp [ht, hpart])).cons d

theorem not_sep_of_mem_splitWhere {s part : List Char} (hpart : part ∈ splitWhere p s) :
    ∀ c ∈ part, p c = false := by
  induction s generalizing part with
  | nil => simp_all
  | cons c t ih =>
      by_cases hc : p c
      · rw [splitWhere_cons_sep t hc, List.mem_cons] at hpart
        rcases hpart with rfl | hpart
        · simp
        · exact ih hpart
      · obtain ⟨first, rest, ht⟩ := List.exists_cons_of_ne_nil (splitWhere_ne_nil (p := p) t)
        rw [splitWhere_cons_of_not (by simpa using hc) ht, List.mem_cons] at hpart
        rcases hpart with rfl | hpart
        · intro d hd
          rcases List.mem_cons.mp hd with rfl | hd
          · simpa using hc
          · exact ih (by simp [ht]) d hd
        · exact ih (by simp [ht, hpart])

theorem exists_mem_splitWhere {s : List Char} {c : Char} (hmem : c ∈ s) (hc : p c = false) :
    ∃ part ∈ splitWhere p s, c ∈ part := by
  induction s with
  | nil => simp at hmem
  | cons d t ih =>
      by_cases hd : p d = true
      · rw [splitWhere_cons_sep t hd]
        rcases List.mem_cons.mp hmem with rfl | hmem
        · simp [hd] at hc
        · obtain ⟨part, hpart, hin⟩ := ih hmem
          exact ⟨part, List.mem_cons_of_mem [] hpart, hin⟩
      · obtain ⟨first, rest, ht⟩ := List.exists_cons_of_ne_nil (splitWhere_ne_nil (p := p) t)
        rw [splitWhere_cons_of_not (by simpa using hd) ht]
        rcases List.mem_cons.mp hmem with rfl | hmem
        · exact ⟨c :: first, List.mem_cons_self, List.mem_cons_self⟩
        · obtain ⟨part, hpart, hin⟩ := ih hmem
          rw [ht] at hpart
          rcases List.mem_cons.mp hpart with rfl | hpart
          · exact ⟨d :: part, List.mem_cons_self, List.mem_cons_of_mem d hin⟩
          · exact ⟨part, List.mem_cons_of_mem _ hpart, hin⟩

theorem splitWhere_flatMap_cons {c : Char} (hc : p c = true) (parts : List (List Char))
    (h : ∀ part ∈ parts, ∀ d ∈ part, p d = false) :
    splitWhere p (parts.flatMap fun part => c :: part) = [] :: parts := by
  induction parts with
  | nil => rfl
  | cons part rest ih =>
      have hrest := ih fun q hq => h q (List.mem_cons_of_mem part hq)
      rw [List.flatMap_cons, List.cons_append, splitWhere_cons_sep _ hc]
      cases rest with
      | nil =>
          rw [List.flatMap_nil, List.append_nil,
            splitWhere_eq_singleton (h part List.mem_cons_self)]
      | cons next rest =>
          rw [List.flatMap_cons, List.cons_append] at hrest ⊢
          rw [splitWhere_cons_sep _ hc] at hrest
          rw [splitWhere_append_cons hc, splitWhere_eq_singleton (h part List.mem_cons_self),
            (List.cons.inj hrest).2, List.singleton_append]

theorem intercalate_splitOn (sep : Char) (s : List Char) :
    [sep].intercalate (splitOn sep s) = s := by
  unfold splitOn
  induction s with
  | nil => simp
  | cons c t ih =>
      obtain ⟨part, rest, ht⟩ := List.exists_cons_of_ne_nil (splitWhere_ne_nil (p := (· == sep)) t)
      rw [ht] at ih
      by_cases hc : c = sep
      · subst hc
        rw [splitWhere_cons_sep (p := (· == c)) t (beq_self_eq_true c), ht]
        simpa [List.intercalate_cons_cons] using ih
      · rw [splitWhere_cons_of_not (p := (· == sep)) (beq_eq_false_iff_ne.mpr hc) ht]
        cases rest with
        | nil => simpa using ih
        | cons next rest => simpa [List.intercalate_cons_cons] using ih

theorem mem_intercalate {c : Char} {part : List Char} (sep : List Char)
    {parts : List (List Char)} (hc : c ∈ part) (hpart : part ∈ parts) :
    c ∈ sep.intercalate parts := by
  induction parts with
  | nil => simp at hpart
  | cons first rest ih =>
      cases rest with
      | nil =>
          obtain rfl := List.mem_singleton.mp hpart
          simpa using hc
      | cons next rest =>
          rw [List.intercalate_cons_cons]
          rcases List.mem_cons.mp hpart with rfl | hpart
          · exact List.mem_append_left _ (List.mem_append_left _ hc)
          · exact List.mem_append_right _ (ih hpart)

/-! ## The last of a character -/

section

variable {c : Char}

theorem exists_eq_append_last {s : List Char} (h : c ∈ s) :
    ∃ before after, s = before ++ c :: after ∧ c ∉ after := by
  obtain ⟨after, before, hreverse, hafter⟩ :=
    List.eq_append_cons_of_mem (List.mem_reverse.mpr h)
  refine ⟨before.reverse, after.reverse, ?_, by simpa using hafter⟩
  rw [← List.reverse_reverse s, hreverse]
  simp

theorem bne_of_mem_reverse {s : List Char} (h : c ∉ s) : ∀ d ∈ s.reverse, (d != c) = true := by
  intro d hd
  have hne : d ≠ c := by
    rintro rfl
    exact h (List.mem_reverse.mp hd)
  simpa using hne

theorem takeWhile_reverse_eq_self {s : List Char} (h : c ∉ s) :
    s.reverse.takeWhile (· != c) = s.reverse :=
  List.takeWhile_eq_self_iff.mpr (bne_of_mem_reverse h)

theorem takeWhile_reverse_append {after : List Char} (h : c ∉ after) (before : List Char) :
    (before ++ c :: after).reverse.takeWhile (· != c) = after.reverse := by
  rw [List.reverse_append, List.reverse_cons, List.append_assoc,
    List.takeWhile_append_of_pos (bne_of_mem_reverse h)]
  simp

theorem append_last_inj {before before' after after' : List Char} (hafter : c ∉ after)
    (hafter' : c ∉ after') (h : before ++ c :: after = before' ++ c :: after') :
    before = before' ∧ after = after' := by
  have hreverse := congrArg (fun s => s.reverse.takeWhile (· != c)) h
  simp only [takeWhile_reverse_append hafter, takeWhile_reverse_append hafter'] at hreverse
  obtain rfl := List.reverse_inj.mp hreverse
  exact ⟨List.append_cancel_right h, rfl⟩

end

end FlowConsole.Text
