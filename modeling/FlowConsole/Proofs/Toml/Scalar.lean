import FlowConsole.Proofs.Json.Scalar
import FlowConsole.Proofs.Toml.Quoted
/-!
Values of TOML come back from their text at the end of a line.

A number could be taken for a date. It is none, since nothing but digits follows up to the end of its
line.
-/
namespace FlowConsole.Toml

/-! ## Numbers -/

theorem ne_of_isDigit {c d : Char} (hc : c.isDigit = true) (hd : d.isDigit = false) : c ≠ d := by
  rintro rfl
  rw [hd] at hc
  cases hc

theorem toDigits_head (n : Nat) : ∃ d t, Nat.toDigits 10 n = d :: t ∧ d.isDigit = true := by
  obtain ⟨d, t, ht⟩ := List.exists_cons_of_ne_nil (Nat.toDigits_ne_nil (n := n) (b := 10))
  exact ⟨d, t, ht, Nat.isDigit_of_mem_toDigits (n := n) (b := 10) (by omega) (by omega)
    (by simp [ht])⟩

/-- Whether a text has nothing but digits up to the end of its line. -/
inductive DigitLine : List Char → Prop
  | newline (rest : List Char) : DigitLine ('\n' :: rest)
  | digit {c : Char} {s : List Char} : c.isDigit = true → DigitLine s → DigitLine (c :: s)

theorem digitLine_append {ds : List Char} (hds : ∀ c ∈ ds, c.isDigit = true) (rest : List Char) :
    DigitLine (ds ++ '\n' :: rest) := by
  induction ds with
  | nil => exact .newline rest
  | cons c ds ih =>
      exact .digit (hds c List.mem_cons_self) (ih fun d hd => hds d (List.mem_cons_of_mem c hd))

namespace DigitLine

variable {s : List Char}

theorem drop (h : DigitLine s) {count : Nat} (htake : ∀ c ∈ s.take count, c.isDigit = true) :
    DigitLine (s.drop count) := by
  induction h generalizing count with
  | newline rest =>
      cases count with
      | zero => exact .newline rest
      | succ count => cases htake '\n' List.mem_cons_self
  | digit hc hs ih =>
      cases count with
      | zero => exact .digit hc hs
      | succ count => exact ih fun d hd => htake d (List.mem_cons_of_mem _ hd)

theorem char?_eq_none (h : DigitLine s) {c : Char} (hdigit : c.isDigit = false) (hline : c ≠ '\n') :
    char? c s = none := by
  cases h with
  | newline rest => exact if_neg hline
  | digit hd _ =>
      exact if_neg (ne_of_isDigit hd hdigit).symm

theorem of_fixedDigits? (h : DigitLine s) {count n : Nat} {s' : List Char}
    (hread : fixedDigits? count s = some (n, s')) : DigitLine s' := by
  unfold fixedDigits? at hread
  dsimp only at hread
  split at hread
  · rename_i hall
    obtain ⟨-, rfl⟩ := Prod.ext_iff.mp (Option.some.inj hread)
    exact h.drop (List.all_eq_true.mp hall.2)
  · cases hread

theorem skipDate?_eq_none (h : DigitLine s) : skipDate? s = none := by
  unfold skipDate?
  cases hyear : fixedDigits? 4 s with
  | none => rfl
  | some r =>
      have hnone := (h.of_fixedDigits? hyear).char?_eq_none (c := '-') (by decide) (by decide)
      simp [hnone]

theorem skipTime?_eq_none (h : DigitLine s) : skipTime? s = none := by
  unfold skipTime?
  cases hhour : fixedDigits? 2 s with
  | none => rfl
  | some r =>
      have hnone := (h.of_fixedDigits? hhour).char?_eq_none (c := ':') (by decide) (by decide)
      simp [hnone]

theorem readDatetime?_eq_none (h : DigitLine s) : readDatetime? s = none := by
  unfold readDatetime?
  simp [h.skipDate?_eq_none, h.skipTime?_eq_none]

end DigitLine

theorem foldr_eq_singleton {α : Type} {f : α → List (List α) → List (List α)} {l : List α}
    (hf : ∀ a ∈ l, ∀ part, f a [part] = [a :: part]) : l.foldr f [[]] = [l] := by
  induction l with
  | nil => rfl
  | cons a l ih =>
      rw [List.foldr_cons, ih fun b hb => hf b (List.mem_cons_of_mem a hb)]
      exact hf a List.mem_cons_self l

section

variable {ds : List Char} (hds : ∀ c ∈ ds, c.isDigit = true)
include hds

theorem readDigits?_digits (hne : ds ≠ []) (rest : List Char) :
    readDigits? Char.isDigit (ds ++ '\n' :: rest) = some (ds, '\n' :: rest) := by
  have hbody : (ds ++ '\n' :: rest).takeWhile (fun c => c.isDigit || c == '_') = ds := by
    rw [List.takeWhile_append_of_pos fun c hc => by simp [hds c hc]]
    simp
  unfold readDigits?
  rw [hbody]
  dsimp only
  rw [foldr_eq_singleton fun c hc part => if_neg (by rintro rfl; cases hds '_' hc)]
  simp [hne]

theorem natOfDigits_digits (n : Nat) :
    ds.foldl (fun n c => n * 10 + (hexValue? c).getD 0) n = Nat.ofDigitChars 10 ds n := by
  induction ds generalizing n with
  | nil => rfl
  | cons c ds ih =>
      have hc : hexValue? c = some (c.toNat - 48) := if_pos (hds c List.mem_cons_self)
      rw [List.foldl_cons, ih fun d hd => hds d (List.mem_cons_of_mem c hd), hc,
        Nat.mul_comm n 10]
      rfl

end

theorem readNumber?_toDigits {n : Nat} (hn : fits n = true) (rest : List Char) :
    readNumber? (Nat.toDigits 10 n ++ '\n' :: rest) = some (.integer n, '\n' :: rest) := by
  have hds : ∀ c ∈ Nat.toDigits 10 n, c.isDigit = true :=
    fun c hc => Nat.isDigit_of_mem_toDigits (by omega) (by omega) hc
  have hdecimal : readDecimal? false (Nat.toDigits 10 n ++ '\n' :: rest) =
      some (.integer n, '\n' :: rest) := by
    have hread := readDigits?_digits hds Nat.toDigits_ne_nil rest
    have hvalue : natOfDigits 10 (Nat.toDigits 10 n) = n := by
      rw [natOfDigits, natOfDigits_digits hds, Nat.ofDigitChars_ten_toDigits]
    have hfront : ¬ ((Nat.toDigits 10 n).length > 1 ∧ (Nat.toDigits 10 n).head? = some '0') := by
      rcases Nat.eq_zero_or_pos n with rfl | hpos
      · simp
      · exact fun h => Json.toDigits_head_ne_zero hpos h.2
    unfold readDecimal?
    rw [hread]
    simp [hfront, hvalue, hn]
  have hline := digitLine_append hds rest
  obtain ⟨d, t, ht, hd⟩ := toDigits_head n
  rw [ht] at hds hdecimal hline ⊢
  have hnext : ∀ c u, t ++ '\n' :: rest = c :: u → c.isDigit = true ∨ c = '\n' := by
    intro c u heq
    cases t with
    | nil => exact .inr (List.cons.inj heq).1.symm
    | cons e t =>
        rw [← (List.cons.inj heq).1]
        exact .inl (hds e (by simp))
  unfold readNumber?
  rw [hline.readDatetime?_eq_none]
  dsimp only
  split
  case h_6 => exact hdecimal
  all_goals
    rename_i heq
    first
    | exact absurd (hnext _ _ (List.cons.inj heq).2) (by decide)
    | exact absurd (List.cons.inj heq).1 (ne_of_isDigit hd (by decide))

/-! ## Values on a line -/

def Simple.toValue : Simple → Value
  | .string s => .string s
  | .natural n => .integer n
  | .boolean b => .boolean b

/-- Whether a value can be read: numbers are signed ones of 64 bits. -/
def Simple.Fits : Simple → Prop
  | .natural n => fits n = true
  | _ => True

theorem stringText_head (s : List Char) : ∃ c t, stringText s = c :: t ∧ (c = '"' ∨ c = '\'') := by
  unfold stringText
  dsimp only
  split_ifs
  · exact ⟨_, _, rfl, .inl rfl⟩
  · exact ⟨_, _, rfl, .inr rfl⟩
  · exact ⟨_, _, rfl, .inl rfl⟩
  · exact ⟨_, _, rfl, .inr rfl⟩
  · exact ⟨_, _, rfl, .inl rfl⟩
  · exact ⟨_, _, rfl, .inl rfl⟩

theorem readScalar?_simple {v : Simple} (hv : v.Fits) (rest : List Char) :
    readScalar? (v.text.toList ++ '\n' :: rest) = some (v.toValue, '\n' :: rest) := by
  cases v with
  | string s =>
      have hread := readString?_stringText (s := s.toList)
        (endsString_cons (c := '\n') (by decide) (by decide) rest)
      obtain ⟨c, t, ht, hc⟩ := stringText_head s.toList
      have htext : (Simple.string s).text.toList = c :: t := by
        rw [Simple.text, String.toList_ofList, ht]
      rw [ht] at hread
      rw [htext, List.cons_append, readScalar?, if_pos hc, ← List.cons_append, hread]
      simp [Simple.toValue]
  | natural n =>
      have htext : (Simple.natural n).text.toList = Nat.toDigits 10 n := by
        simp [Simple.text, toString, Nat.repr]
      have hread := readNumber?_toDigits hv rest
      obtain ⟨d, t, ht, hd⟩ := toDigits_head n
      have hne : ∀ {c : Char}, c.isDigit = false → d ≠ c := ne_of_isDigit hd
      rw [htext]
      rw [ht, List.cons_append] at hread ⊢
      unfold readScalar?
      dsimp only
      rw [if_neg (by simp [hne]), if_neg (hne (by decide)), if_neg (hne (by decide)),
        if_neg (by simp [hne]), if_pos (.inr (.inr hd)), hread]
      rfl
  | boolean b => cases b <;> rfl

end FlowConsole.Toml
