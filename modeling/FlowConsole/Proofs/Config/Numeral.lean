import FlowConsole.Config.Environment
import FlowConsole.Config.Extract
import FlowConsole.Proofs.Text.Split
/-!
Values of variables that are numbers.

A number is a sign perhaps and digits, as many as 64 bits hold, or digits with a point among them and
perhaps an exponent. Any other word is a text.
-/
namespace FlowConsole.Environment

open Config (Check Layer Scalar Setting)

def IsSign (s : List Char) : Prop := s = [] ∨ s = ['+'] ∨ s = ['-']

def IsDigits (s : List Char) : Prop := s ≠ [] ∧ ∀ c ∈ s, c.isDigit = true

/-- How large whole numbers may be behind a sign. -/
def limit (sign : List Char) : Nat :=
  if sign = ['-'] then 0x8000000000000001 else 0x10000000000000000

def IsExponent (s : List Char) : Prop :=
  s = [] ∨ ∃ c sign power, s = c :: (sign ++ power) ∧ (c = 'e' ∨ c = 'E') ∧ IsSign sign ∧
    IsDigits power

/-- The texts of numbers: whole ones of 64 bits, and any with a point that has a digit beside it. -/
inductive IsNumber : List Char → Prop
  | whole {sign digits : List Char} (hsign : IsSign sign) (hdigits : IsDigits digits)
      (hlimit : Toml.natOfDigits 10 digits < limit sign) : IsNumber (sign ++ digits)
  | point {sign whole fraction exponent : List Char} (hsign : IsSign sign)
      (hdigits : IsDigits (whole ++ fraction)) (hexponent : IsExponent exponent) :
      IsNumber (sign ++ (whole ++ '.' :: (fraction ++ exponent)))

def marks : List Char := ['+', '-', '.', 'e', 'E']

theorem IsNumber.chars {s : List Char} (h : IsNumber s) :
    ∀ c ∈ s, c.isDigit = true ∨ c ∈ marks := by
  have hsigns : ∀ {sign}, IsSign sign → ∀ c ∈ sign, c.isDigit = true ∨ c ∈ marks := by
    rintro _ (rfl | rfl | rfl) <;> simp [marks]
  cases h with
  | whole hsign hdigits _ =>
      exact List.forall_mem_append.mpr ⟨hsigns hsign, fun c hc => .inl (hdigits.2 c hc)⟩
  | point hsign hdigits hexponent =>
      obtain ⟨hwhole, hfraction⟩ := List.forall_mem_append.mp hdigits.2
      refine List.forall_mem_append.mpr ⟨hsigns hsign, List.forall_mem_append.mpr
        ⟨fun c hc => .inl (hwhole c hc), List.forall_mem_cons.mpr ⟨by simp [marks],
          List.forall_mem_append.mpr ⟨fun c hc => .inl (hfraction c hc), ?_⟩⟩⟩⟩
      rcases hexponent with rfl | ⟨c, sign, power, rfl, hc, hsign, hpower⟩
      · simp
      · refine List.forall_mem_cons.mpr ⟨?_, List.forall_mem_append.mpr
          ⟨hsigns hsign, fun c hc => .inl (hpower.2 c hc)⟩⟩
        rcases hc with rfl | rfl <;> simp [marks]

theorem IsNumber.not_mem {s : List Char} (h : IsNumber s) {c : Char} (hdigit : c.isDigit = false)
    (hmark : c ∉ marks) : c ∉ s := by
  intro hc
  rcases h.chars c hc with hc | hc
  · rw [hdigit] at hc
    cases hc
  · exact hmark hc

/-- A text that is not taken for a sign and what follows it. -/
def IsUnsigned (s : List Char) : Prop := ∀ c, s.head? = some c → c ≠ '-' ∧ c ≠ '+'

theorem IsDigits.isUnsigned {s : List Char} (h : IsDigits s) : IsUnsigned s := by
  intro c hc
  have hdigit := h.2 c (List.mem_of_head? hc)
  constructor <;> rintro rfl <;> exact absurd hdigit (by decide)

theorem isUnsigned_point {whole fraction : List Char} (h : IsDigits (whole ++ fraction))
    (t : List Char) : IsUnsigned (whole ++ '.' :: t) := by
  cases whole with
  | nil =>
      rintro c ⟨⟩
      decide
  | cons c whole => exact h.isUnsigned

theorem splitSign_append {sign s : List Char} (hsign : IsSign sign)
    (hs : sign = [] → IsUnsigned s) : splitSign (sign ++ s) = (decide (sign = ['-']), s) := by
  rcases hsign with rfl | rfl | rfl
  · have hhead := hs rfl
    rw [List.nil_append]
    unfold splitSign
    split
    · exact absurd rfl (hhead '-' rfl).1
    · exact absurd rfl (hhead '+' rfl).2
    · rfl
  · rfl
  · rfl

theorem exists_sign (s : List Char) :
    ∃ sign rest, s = sign ++ rest ∧ IsSign sign ∧ (sign = [] → IsUnsigned rest) := by
  cases s with
  | nil => exact ⟨[], [], rfl, .inl rfl, fun _ c hc => by cases hc⟩
  | cons c s =>
      by_cases hminus : c = '-'
      · exact ⟨['-'], s, by rw [hminus]; rfl, .inr (.inr rfl), fun h => by cases h⟩
      · by_cases hplus : c = '+'
        · exact ⟨['+'], s, by rw [hplus]; rfl, .inr (.inl rfl), fun h => by cases h⟩
        · refine ⟨[], c :: s, rfl, .inl rfl, fun _ d hd => ?_⟩
          obtain rfl : c = d := Option.some.inj hd
          exact ⟨hminus, hplus⟩

theorem whole?_append {sign s : List Char} (hsign : IsSign sign) (hs : sign = [] → IsUnsigned s) :
    (whole? (sign ++ s)).isSome ↔ IsDigits s ∧ Toml.natOfDigits 10 s < limit sign := by
  have hminus : (sign ++ s).head? = some '-' ↔ sign = ['-'] := by
    rcases hsign with rfl | rfl | rfl
    · exact iff_of_false (fun h => (hs rfl '-' h).1 rfl) (by simp)
    · simp
    · simp
  unfold whole? limit
  simp only [splitSign_append hsign hs, hminus]
  by_cases hdigits : IsDigits s
  · rw [if_neg (by simpa [IsDigits] using hdigits), iff_true_intro hdigits, true_and]
    split
    · split
      · exact iff_of_true rfl (by omega)
      · exact iff_of_false (by simp) (by omega)
    · split
      · exact iff_of_true rfl ‹_›
      · exact iff_of_false (by simp) ‹_›
  · rw [if_pos (by simpa [IsDigits, imp_iff_not_or] using hdigits)]
    exact iff_of_false (by simp) fun h => hdigits h.1

theorem isExponent_cons_iff {c : Char} {s : List Char} :
    IsExponent (c :: s) ↔ (c = 'e' ∨ c = 'E') ∧ IsDigits (splitSign s).2 := by
  constructor
  · rintro (h | ⟨d, sign, power, heq, hd, hsign, hpower⟩)
    · cases h
    · obtain ⟨rfl, rfl⟩ := List.cons.inj heq
      rw [splitSign_append hsign fun _ => hpower.isUnsigned]
      exact ⟨hd, hpower⟩
  · rintro ⟨hc, hpower⟩
    obtain ⟨sign, rest, rfl, hsign, hrest⟩ := exists_sign s
    rw [splitSign_append hsign hrest] at hpower
    exact .inr ⟨c, sign, rest, rfl, hc, hsign, hpower⟩

theorem IsExponent.digits {s : List Char} (h : IsExponent s) :
    s.takeWhile Char.isDigit = [] ∧ s.dropWhile Char.isDigit = s := by
  rcases h with rfl | ⟨c, sign, power, rfl, rfl | rfl, -, -⟩ <;> exact ⟨rfl, rfl⟩

theorem float?_append {sign s : List Char} (hsign : IsSign sign) (hs : sign = [] → IsUnsigned s) :
    (float? (sign ++ s)).isSome ↔ ∃ whole fraction exponent,
      s = whole ++ '.' :: (fraction ++ exponent) ∧ IsDigits (whole ++ fraction) ∧
        IsExponent exponent := by
  have hdigit : ∀ {s : List Char}, ∀ c ∈ s.takeWhile Char.isDigit, c.isDigit = true :=
    fun c hc => List.mem_takeWhile_imp hc
  unfold float?
  simp only [splitSign_append hsign hs, Text.drop_length_takeWhile]
  constructor
  · intro h
    split at h
    · rename_i rest hrest
      split at h
      · cases h
      · rename_i hne
        refine ⟨s.takeWhile Char.isDigit, rest.takeWhile Char.isDigit, rest.dropWhile Char.isDigit,
          ?_, ⟨by simpa using hne, ?_⟩, ?_⟩
        · rw [List.takeWhile_append_dropWhile, ← hrest, List.takeWhile_append_dropWhile]
        · exact List.forall_mem_append.mpr ⟨hdigit, hdigit⟩
        · split at h
          · rename_i hexponent
            exact .inl hexponent
          · rename_i c power hexponent
            split at h
            · rename_i hpower
              rw [hexponent, isExponent_cons_iff]
              exact ⟨hpower.1, by simpa [IsDigits] using hpower.2⟩
            · cases h
    · cases h
  · rintro ⟨whole, fraction, exponent, rfl, ⟨hne, hdigits⟩, hexponent⟩
    obtain ⟨hwhole, hfraction⟩ := List.forall_mem_append.mp hdigits
    obtain ⟨htake, hdrop⟩ := hexponent.digits
    rw [List.takeWhile_append_of_pos hwhole, List.dropWhile_append_of_pos hwhole,
      List.takeWhile_cons_of_neg (by decide), List.dropWhile_cons_of_neg (by decide),
      List.append_nil]
    simp only [List.takeWhile_append_of_pos hfraction, List.dropWhile_append_of_pos hfraction, htake,
      hdrop, List.append_nil]
    rw [if_neg (by simpa using hne)]
    split
    · rfl
    · rw [isExponent_cons_iff] at hexponent
      rw [if_pos ⟨hexponent.1, by simpa [IsDigits] using hexponent.2⟩]
      rfl

/-- Whether a setting is nothing that a text could be read from. -/
def IsNoText (s : Setting) : Prop := ∀ t, Check.text s ≠ .ok t

theorem isNoText_whole? {s : List Char} {x : Scalar} (h : whole? s = some x) (layer : Layer) :
    IsNoText (.scalar layer x) := by
  unfold whole? at h
  dsimp only at h
  repeat' split at h
  · cases h
  · obtain rfl := Option.some.inj h
    simp [IsNoText, Check.text, Check.textOf, Check.refuse]
  · cases h
  · obtain rfl := Option.some.inj h
    simp [IsNoText, Check.text, Check.textOf, Check.refuse]
  · cases h

theorem isNoText_word {s : List Char} (h : IsNumber s) (layer : Layer) :
    IsNoText (.scalar layer (word s)) := by
  unfold word
  dsimp only
  split
  · simp [IsNoText, Check.text, Check.textOf, Check.refuse]
  · rename_i hfloat
    cases h with
    | whole hsign hdigits hlimit =>
        obtain ⟨x, hx⟩ := Option.isSome_iff_exists.mp
          ((whole?_append hsign fun _ => hdigits.isUnsigned).mpr ⟨hdigits, hlimit⟩)
        rw [hx]
        exact isNoText_whole? hx layer
    | point hsign hdigits hexponent =>
        have hsome := (float?_append hsign fun _ => isUnsigned_point hdigits _).mpr
          ⟨_, _, _, rfl, hdigits, hexponent⟩
        rw [if_pos (by simp)] at hfloat
        rw [hfloat] at hsome
        cases hsome

theorem word_of_not_isNumber {s : List Char} (h : ¬ IsNumber s) :
    word s = .text (String.ofList s) := by
  obtain ⟨sign, rest, rfl, hsign, hrest⟩ := exists_sign s
  have hfloat : float? (sign ++ rest) = none := by
    rw [← Option.not_isSome_iff_eq_none, float?_append hsign hrest]
    rintro ⟨whole, fraction, exponent, rfl, hdigits, hexponent⟩
    exact h (.point hsign hdigits hexponent)
  have hwhole : whole? (sign ++ rest) = none := by
    rw [← Option.not_isSome_iff_eq_none, whole?_append hsign hrest]
    rintro ⟨hdigits, hlimit⟩
    exact h (.whole hsign hdigits hlimit)
  simp only [word, hfloat, hwhole, ite_self, Option.getD_none]

end FlowConsole.Environment
