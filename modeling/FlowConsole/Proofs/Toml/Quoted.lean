import FlowConsole.Toml.Writer
import Mathlib.Data.List.Basic
/-!
Strings and keys of TOML come back from their text.

A string may be written in four forms. Of those over several lines the quotes are what needs care: up
to two may stand together as they are, also in front of the closing ones.
-/
namespace FlowConsole.Toml

/-! ## Characters between quotes -/

/-- How a character other than a quote is written between quotes. -/
def charText (lines : Bool) (c : Char) : List Char :=
  match c with
  | '\x08' => ['\\', 'b']
  | '\t' => ['\\', 't']
  | '\n' => if lines then ['\n'] else ['\\', 'n']
  | '\x0c' => ['\\', 'f']
  | '\r' => ['\\', 'r']
  | '\\' => ['\\', '\\']
  | c =>
    if c.toNat < 0x20 ∨ c.toNat = 0x7F then
      ['\\', 'u', '0', '0', upperHexDigit (c.toNat / 16), upperHexDigit c.toNat]
    else [c]

theorem escaped_cons {lines : Bool} {c : Char} (hc : c ≠ '"') (quotesLeft : Nat) (s : List Char) :
    escaped lines quotesLeft (c :: s) =
      charText lines c ++ escaped lines (if lines then 2 else 0) s := by
  rw [escaped.eq_def]
  dsimp only
  rw [if_neg hc]
  rfl

theorem hexValue?_upperHexDigit (n : Nat) : hexValue? (upperHexDigit n) = some (n % 16) := by
  have hdigits : ∀ m < 16, hexValue? (Nat.digitChar m).toUpper = some m := by decide
  exact hdigits (n % 16) (Nat.mod_lt n (by omega))

theorem readCode?_control {c : Char} (hc : c.toNat < 0x20 ∨ c.toNat = 0x7F) (rest : List Char) :
    readCode? 4 ('0' :: '0' :: upperHexDigit (c.toNat / 16) :: upperHexDigit c.toNat :: rest) =
      some (c, rest) := by
  have hzero : hexValue? '0' = some 0 := by decide
  have hnumber : c.toNat / 16 % 16 * 16 + c.toNat % 16 = c.toNat := by omega
  have hsmall : c.toNat ≤ 0x10FFFF ∧ ¬ (0xD800 ≤ c.toNat ∧ c.toNat ≤ 0xDFFF) := by omega
  simp [readCode?, hzero, hexValue?_upperHexDigit, hnumber, hsmall]

theorem charText_cases (lines : Bool) (c : Char) :
    (charText lines c = [c] ∧ c ≠ '\\' ∧ c ≠ '\r' ∧ (isPlain c = true ∨ lines = true ∧ c = '\n')) ∨
      ∃ e, charText lines c = '\\' :: e ∧ ∀ rest, readEscape? (e ++ rest) = some (c, rest) := by
  unfold charText
  split
  case h_3 =>
    cases lines with
    | false => exact .inr ⟨['n'], rfl, fun _ => rfl⟩
    | true => exact .inl ⟨rfl, by decide, by decide, .inr ⟨rfl, rfl⟩⟩
  case h_7 c _ htab hnewline _ hreturn hbackslash =>
    split
    · rename_i hcontrol
      exact .inr ⟨_, rfl, fun rest => readCode?_control hcontrol rest⟩
    · rename_i hplain
      refine .inl ⟨rfl, hbackslash, hreturn, .inl ?_⟩
      unfold isPlain
      simp
      omega
  all_goals exact .inr ⟨_, rfl, fun _ => rfl⟩

/-! ## Strings on one line -/

theorem length_le_escaped (lines : Bool) (quotesLeft : Nat) (s : List Char) :
    s.length ≤ (escaped lines quotesLeft s).length := by
  induction s generalizing quotesLeft with
  | nil => simp
  | cons c s ih =>
      by_cases hc : c = '"'
      · subst hc
        cases quotesLeft with
        | zero =>
            have hrest := ih (if lines then 2 else 0)
            simp only [escaped, if_true, List.length_cons]
            omega
        | succ left =>
            have hrest := ih left
            simp only [escaped, if_true, List.length_cons]
            omega
      · have hrest := ih (if lines then 2 else 0)
        have hpos : 0 < (charText lines c).length := by
          rcases charText_cases lines c with ⟨hself, -⟩ | ⟨e, hescape, -⟩
          · simp [hself]
          · simp [hescape]
        rw [escaped_cons hc, List.length_append, List.length_cons]
        omega

theorem readBasic?_escaped {fuel : Nat} (s : List Char) (hfuel : s.length < fuel)
    (seen rest : List Char) :
    readBasic? fuel seen (escaped false 0 s ++ '"' :: rest) =
      some (String.ofList (seen.reverse ++ s), rest) := by
  induction s generalizing fuel seen with
  | nil =>
      obtain ⟨fuel, rfl⟩ := Nat.exists_eq_succ_of_ne_zero (Nat.ne_of_gt hfuel)
      simp [escaped, readBasic?]
  | cons c s ih =>
      rw [List.length_cons] at hfuel
      obtain ⟨fuel, rfl⟩ : ∃ n, fuel = n + 1 := ⟨fuel - 1, by omega⟩
      have hnext : readBasic? (fuel + 1) seen (escaped false 0 (c :: s) ++ '"' :: rest) =
          readBasic? fuel (c :: seen) (escaped false 0 s ++ '"' :: rest) := by
        by_cases hc : c = '"'
        · subst hc
          rfl
        · rw [escaped_cons hc]
          rcases charText_cases false c with ⟨hself, hbackslash, -, hplain⟩ | ⟨e, hescape, hread⟩
          · have hplain : isPlain c = true := by simpa using hplain
            rw [hself]
            simp [readBasic?, hc, hbackslash, hplain]
          · rw [hescape, List.append_assoc, List.cons_append, readBasic?, if_neg (by decide),
              if_pos rfl, hread]
            rfl
      rw [hnext, ih (by omega), List.reverse_cons, List.append_assoc, List.singleton_append]

theorem readLiteral?_plain {s : List Char} (h : ∀ c ∈ s, isPlain c = true ∧ c ≠ '\'')
    (rest : List Char) : readLiteral? (s ++ '\'' :: rest) = some (String.ofList s, rest) := by
  have hbody : (s ++ '\'' :: rest).takeWhile (fun c => isPlain c && c ≠ '\'') = s := by
    rw [List.takeWhile_append_of_pos (by simpa using h)]
    simp
  unfold readLiteral?
  rw [hbody]
  simp

/-! ## Strings over several lines -/

/-- The text of a string over several lines between its delimiters, and the string. The number says
how many quotes may still stand as they are. -/
inductive LinesBody (quote : Char) (escapes : Bool) : Nat → List Char → List Char → Prop
  | nil (left : Nat) : LinesBody quote escapes left [] []
  | quote {left : Nat} {t s : List Char} : LinesBody quote escapes left t s →
    LinesBody quote escapes (left + 1) (quote :: t) (quote :: s)
  | plain {c : Char} {t s : List Char} (left : Nat) : c ≠ quote → ¬ (c = '\\' ∧ escapes = true) →
    c ≠ '\r' → (isPlain c = true ∨ c = '\n') → LinesBody quote escapes 2 t s →
      LinesBody quote escapes left (c :: t) (c :: s)
  | escape {c : Char} {e t s : List Char} (left : Nat) : quote ≠ '\\' → escapes = true →
    (∀ rest, readEscape? (e ++ rest) = some (c, rest)) → LinesBody quote escapes 2 t s →
      LinesBody quote escapes left ('\\' :: (e ++ t)) (c :: s)

namespace LinesBody

variable {quote : Char} {escapes : Bool} {left : Nat} {t s rest : List Char}

theorem length_le (h : LinesBody quote escapes left t s) : s.length ≤ t.length := by
  induction h with
  | nil _ => simp
  | quote _ ih | plain _ _ _ _ _ _ ih => simpa using ih
  | escape _ _ _ _ _ ih =>
      simp only [List.length_cons, List.length_append]
      omega

/-- The quotes in front: either there is nothing else, or there are few of them. -/
theorem run_cases (h : LinesBody quote escapes left t s) :
    (∃ n ≤ left, t = List.replicate n quote ∧ s = List.replicate n quote) ∨
      ∃ n ≤ left, ∃ c t', t = List.replicate n quote ++ c :: t' ∧ c ≠ quote := by
  induction h with
  | nil left => exact .inl ⟨0, Nat.zero_le _, rfl, rfl⟩
  | quote _ ih =>
      rcases ih with ⟨n, hn, rfl, rfl⟩ | ⟨n, hn, c, t', rfl, hc⟩
      · exact .inl ⟨n + 1, by omega, rfl, rfl⟩
      · exact .inr ⟨n + 1, by omega, c, t', rfl, hc⟩
  | plain left hc _ _ _ _ _ => exact .inr ⟨0, Nat.zero_le _, _, _, rfl, hc⟩
  | escape left hquote _ _ _ _ => exact .inr ⟨0, Nat.zero_le _, _, _, rfl, hquote.symm⟩

end LinesBody

theorem runLength_replicate {quote : Char} (n : Nat) {rest : List Char}
    (hrest : rest.head? ≠ some quote) : runLength quote (List.replicate n quote ++ rest) = n := by
  have hnone : rest.takeWhile (· == quote) = [] := by
    cases rest with
    | nil => rfl
    | cons c rest =>
        have hc : c ≠ quote := by simpa using hrest
        simp [hc]
  unfold runLength
  rw [List.takeWhile_append_of_pos (by simp), hnone]
  simp

theorem readLines?_quote (quote : Char) (escapes : Bool) (fuel : Nat) (seen rest : List Char) :
    readLines? quote escapes (fuel + 1) seen (quote :: rest) =
      let run := runLength quote (quote :: rest)
      if run < 3 then readLines? quote escapes fuel (quote :: seen) rest
      else if run ≤ 5 then
        some (String.ofList (seen.reverse ++ List.replicate (run - 3) quote),
          (quote :: rest).drop run)
      else none := by
  rw [readLines?.eq_def]
  dsimp only
  rw [if_pos rfl]

theorem readLines?_close {quote : Char} {escapes : Bool} (fuel : Nat) {n : Nat} (hn : n ≤ 2)
    (seen : List Char) {rest : List Char} (hrest : rest.head? ≠ some quote) :
    readLines? quote escapes (fuel + 1) seen (List.replicate (n + 3) quote ++ rest) =
      some (String.ofList (seen.reverse ++ List.replicate n quote), rest) := by
  have hrun := runLength_replicate (n + 3) hrest
  have hcons : List.replicate (n + 3) quote ++ rest =
      quote :: (List.replicate (n + 2) quote ++ rest) := rfl
  rw [hcons] at hrun ⊢
  rw [readLines?_quote, hrun, if_neg (by omega), if_pos (by omega), ← hcons]
  simp

theorem readLines?_of_body {quote : Char} {escapes : Bool} {left : Nat} {t s : List Char}
    (h : LinesBody quote escapes left t s) (hleft : left ≤ 2) {fuel : Nat} (hfuel : s.length < fuel)
    (seen : List Char) {rest : List Char} (hrest : rest.head? ≠ some quote) :
    readLines? quote escapes fuel seen (t ++ (List.replicate 3 quote ++ rest)) =
      some (String.ofList (seen.reverse ++ s), rest) := by
  induction h generalizing fuel seen with
  | nil left =>
      obtain ⟨fuel, rfl⟩ := Nat.exists_eq_succ_of_ne_zero (Nat.ne_of_gt hfuel)
      exact readLines?_close fuel (Nat.zero_le 2) seen hrest
  | @quote left t s hbody ih =>
      rw [List.length_cons] at hfuel
      obtain ⟨fuel, rfl⟩ : ∃ n, fuel = n + 1 := ⟨fuel - 1, by omega⟩
      rcases hbody.run_cases with ⟨n, hn, rfl, rfl⟩ | ⟨n, hn, c, t', rfl, hc⟩
      · -- the quotes run into the closing ones
        have hclose : readLines? quote escapes (fuel + 1) seen
            (List.replicate (n + 1 + 3) quote ++ rest) =
              some (String.ofList (seen.reverse ++ List.replicate (n + 1) quote), rest) :=
          readLines?_close fuel (by omega) seen hrest
        rw [List.replicate_succ, List.cons_append, ← List.replicate_append_replicate,
          List.append_assoc] at hclose
        exact hclose
      · have hrun : runLength quote (quote :: (List.replicate n quote ++ c :: t' ++
            (List.replicate 3 quote ++ rest))) = n + 1 := by
          have hnext : (c :: (t' ++ (List.replicate 3 quote ++ rest))).head? ≠ some quote := by
            simpa using hc
          simpa [List.replicate_succ] using runLength_replicate (n + 1) hnext
        have hread := ih (by omega) (Nat.lt_of_succ_lt_succ hfuel) (quote :: seen)
        rw [List.cons_append, readLines?_quote, hrun, if_pos (by omega), hread]
        simp
  | @plain c t s left hquote hbackslash hreturn hplain _ ih =>
      rw [List.length_cons] at hfuel
      obtain ⟨fuel, rfl⟩ : ∃ n, fuel = n + 1 := ⟨fuel - 1, by omega⟩
      have hread := ih (Nat.le_refl 2) (Nat.lt_of_succ_lt_succ hfuel) (c :: seen)
      have hnext : readLines? quote escapes (fuel + 1) seen
          (c :: (t ++ (List.replicate 3 quote ++ rest))) =
            readLines? quote escapes fuel (c :: seen) (t ++ (List.replicate 3 quote ++ rest)) := by
        rw [readLines?.eq_def]
        dsimp only
        rw [if_neg hquote, if_neg hbackslash]
        rcases hplain with hplain | rfl
        · by_cases hnewline : c = '\n'
          · rw [if_pos hnewline, hnewline]
          · rw [if_neg hnewline, if_neg hreturn, if_pos hplain]
        · rw [if_pos rfl]
      rw [List.cons_append, hnext, hread]
      simp
  | @escape c e t s left hquote hescapes hescape _ ih =>
      rw [List.length_cons] at hfuel
      obtain ⟨fuel, rfl⟩ : ∃ n, fuel = n + 1 := ⟨fuel - 1, by omega⟩
      have hread := ih (Nat.le_refl 2) (Nat.lt_of_succ_lt_succ hfuel) (c :: seen)
      rw [List.cons_append, List.append_assoc, readLines?.eq_def]
      dsimp only
      rw [if_neg hquote.symm, if_pos ⟨rfl, hescapes⟩, hescape]
      dsimp only
      rw [hread]
      simp

theorem escaped_body (quotesLeft : Nat) (s : List Char) :
    LinesBody '"' true quotesLeft (escaped true quotesLeft s) s := by
  induction s generalizing quotesLeft with
  | nil => exact .nil quotesLeft
  | cons c s ih =>
      by_cases hc : c = '"'
      · subst hc
        cases quotesLeft with
        | zero => exact .escape (e := ['"']) 0 (by decide) rfl (fun _ => rfl) (ih 2)
        | succ left => exact .quote (ih left)
      · rw [escaped_cons hc, if_pos rfl]
        rcases charText_cases true c with ⟨hself, hbackslash, hreturn, hplain⟩ | ⟨e, hescape, hread⟩
        · rw [hself]
          exact .plain quotesLeft hc (by simp [hbackslash]) hreturn (by simpa using hplain) (ih 2)
        · rw [hescape]
          exact .escape quotesLeft (by decide) rfl hread (ih 2)

theorem isPlain_or_newline {c : Char} (h : isControl c = false) : isPlain c = true ∨ c = '\n' := by
  by_cases hnewline : c = '\n'
  · exact .inr hnewline
  · by_cases htab : c = '\t'
    · exact .inl (by simp [isPlain, htab])
    · simp [isControl, hnewline, htab] at h
      refine .inl ?_
      simp [isPlain]
      omega

theorem le_longestRun (c : Char) (best run : Nat) (s : List Char) : best ≤ longestRun c best run s := by
  induction s generalizing best run with
  | nil => exact Nat.le_refl best
  | cons d s ih =>
      rw [longestRun]
      split
      · exact Nat.le_trans (Nat.le_max_left _ _) (ih _ _)
      · exact ih _ _

theorem longestRun_pos {c : Char} {s : List Char} (h : c ∈ s) (best run : Nat) :
    0 < longestRun c best run s := by
  induction s generalizing best run with
  | nil => cases h
  | cons d s ih =>
      rw [longestRun]
      split
      · have hle := le_longestRun c (max best (run + 1)) (run + 1) s
        omega
      · rename_i hne
        rcases List.mem_cons.mp h with rfl | h
        · exact absurd rfl hne
        · exact ih h _ _

theorem literal_body {s : List Char} (hplain : ∀ c ∈ s, isControl c = false) {best run : Nat}
    (hrun : longestRun '\'' best run s ≤ 2) (hle : run ≤ 2) : LinesBody '\'' false (2 - run) s s := by
  induction s generalizing best run with
  | nil => exact .nil _
  | cons c s ih =>
      have hplain' : ∀ c ∈ s, isControl c = false := fun d hd => hplain d (List.mem_cons_of_mem c hd)
      rw [longestRun] at hrun
      split at hrun
      · rename_i hc
        subst hc
        have hbest := le_longestRun '\'' (max best (run + 1)) (run + 1) s
        have hnext := ih hplain' hrun (by omega)
        have hleft : 2 - run = (2 - (run + 1)) + 1 := by omega
        rw [hleft]
        exact .quote hnext
      · rename_i hc
        have hcontrol := hplain c List.mem_cons_self
        have hreturn : c ≠ '\r' := by
          rintro rfl
          cases hcontrol
        exact .plain _ hc (by simp) hreturn (isPlain_or_newline hcontrol)
          (ih hplain' hrun (Nat.zero_le 2))

/-! ## Strings -/

def EndsString (s : List Char) : Prop :=
  s.head? ≠ some '"' ∧ s.head? ≠ some '\''

theorem endsString_cons {c : Char} (hquote : c ≠ '"') (hapostrophe : c ≠ '\'') (s : List Char) :
    EndsString (c :: s) := by
  simpa [EndsString] using ⟨hquote, hapostrophe⟩

theorem readString?_quote {t : List Char} (h : ∀ u, t ≠ '"' :: '"' :: u) :
    readString? ('"' :: t) = readBasic? (t.length + 2) [] t := by
  unfold readString?
  split
  case h_1 rest heq => exact absurd (List.cons.inj heq).2 (h rest)
  case h_2 heq =>
    obtain rfl := (List.cons.inj heq).2
    rfl
  case h_3 heq => cases (List.cons.inj heq).1
  case h_4 heq => cases (List.cons.inj heq).1
  case h_5 hnot _ _ => exact (hnot t rfl).elim

theorem readString?_apostrophe {t : List Char} (h : ∀ u, t ≠ '\'' :: '\'' :: u) :
    readString? ('\'' :: t) = readLiteral? t := by
  unfold readString?
  split
  case h_1 heq => cases (List.cons.inj heq).1
  case h_2 heq => cases (List.cons.inj heq).1
  case h_3 rest heq => exact absurd (List.cons.inj heq).2 (h rest)
  case h_4 heq =>
    obtain rfl := (List.cons.inj heq).2
    rfl
  case h_5 hnot => exact (hnot t rfl).elim

section

variable {s rest : List Char}

/-- A text between quotes does not look like one over several lines. -/
theorem escaped_front (hrest : EndsString rest) (u : List Char) :
    escaped false 0 s ++ '"' :: rest ≠ '"' :: '"' :: u := by
  intro heq
  cases s with
  | nil =>
      refine hrest.1 ?_
      rw [(List.cons.inj heq).2]
      rfl
  | cons c s =>
      by_cases hc : c = '"'
      · subst hc
        cases (List.cons.inj heq).1
      · rw [escaped_cons hc] at heq
        rcases charText_cases false c with ⟨hself, -⟩ | ⟨e, hescape, -⟩
        · rw [hself] at heq
          exact hc (List.cons.inj heq).1
        · rw [hescape] at heq
          cases (List.cons.inj heq).1

theorem basicText_append (s rest : List Char) :
    basicText s ++ rest = '"' :: (escaped false 0 s ++ '"' :: rest) := by
  simp [basicText]

theorem readString?_basicText (hrest : EndsString rest) :
    readString? (basicText s ++ rest) = some (String.ofList s, rest) := by
  have hlength := length_le_escaped false 0 s
  rw [basicText_append, readString?_quote (escaped_front hrest), readBasic?_escaped s]
  · rfl
  · rw [List.length_append]
    omega

/-- What can be written between apostrophes on one line, and needs to be. -/
structure IsLiteral (s : List Char) : Prop where
  ne_nil : s ≠ []
  plain : ∀ c ∈ s, isPlain c = true ∧ c ≠ '\''

theorem IsLiteral.front (h : IsLiteral s) (rest u : List Char) :
    s ++ '\'' :: rest ≠ '\'' :: '\'' :: u := by
  obtain ⟨c, s, rfl⟩ := List.exists_cons_of_ne_nil h.ne_nil
  intro heq
  exact (h.plain c List.mem_cons_self).2 (List.cons.inj heq).1

theorem literalText_append (s rest : List Char) :
    '\'' :: (s ++ ['\'']) ++ rest = '\'' :: (s ++ '\'' :: rest) := by
  simp

theorem readString?_literal (h : IsLiteral s) :
    readString? ('\'' :: (s ++ ['\'']) ++ rest) = some (String.ofList s, rest) := by
  rw [literalText_append, readString?_apostrophe (h.front rest), readLiteral?_plain h.plain]

theorem newline?_eq_none {c : Char} (hnewline : c ≠ '\n') (hreturn : c ≠ '\r') (s : List Char) :
    newline? (c :: s) = none := by
  unfold newline?
  split
  · rename_i heq
    exact absurd (List.cons.inj heq).1 hnewline
  · rename_i heq
    exact absurd (List.cons.inj heq).1 hreturn
  · rfl

theorem LinesBody.newline?_eq_none {quote : Char} {escapes : Bool} {left : Nat} {t : List Char}
    (h : LinesBody quote escapes left t s) (hquote : quote = '"' ∨ quote = '\'') (hs : '\n' ∉ s)
    (rest : List Char) : newline? (t ++ quote :: rest) = none := by
  have hline : quote ≠ '\n' ∧ quote ≠ '\r' := by
    rcases hquote with rfl | rfl
    · decide
    · decide
  cases h with
  | nil _ | quote _ => exact Toml.newline?_eq_none hline.1 hline.2 _
  | plain _ _ _ hreturn _ _ =>
      refine Toml.newline?_eq_none (fun heq => hs ?_) hreturn _
      rw [heq]
      exact List.mem_cons_self
  | escape _ _ _ _ _ => exact Toml.newline?_eq_none (by decide) (by decide) _

/-- A text over several lines. If it is not marked as one that starts on a line of its own, there
are no line ends in it. -/
theorem readString?_lines {quote : Char} {t : List Char} (hquote : quote = '"' ∨ quote = '\'')
    (hbody : LinesBody quote (quote == '"') 2 t s) {newline : Bool}
    (hnewline : newline = false → '\n' ∉ s) (hrest : EndsString rest) :
    readString? (linesText quote newline t ++ rest) = some (String.ofList s, rest) := by
  have htrimmed : (newline? ((if newline then ['\n'] else []) ++
      (t ++ (List.replicate 3 quote ++ rest)))).getD ((if newline then ['\n'] else []) ++
        (t ++ (List.replicate 3 quote ++ rest))) = t ++ (List.replicate 3 quote ++ rest) := by
    cases newline with
    | true => rfl
    | false =>
        have hnone := hbody.newline?_eq_none hquote (hnewline rfl) (quote :: quote :: rest)
        exact congrArg (Option.getD · (t ++ (List.replicate 3 quote ++ rest))) hnone
  have htext : linesText quote newline t ++ rest = quote :: quote :: quote ::
      ((if newline then ['\n'] else []) ++ (t ++ (List.replicate 3 quote ++ rest))) := by
    simp [linesText]
  have hends : rest.head? ≠ some quote := by
    rcases hquote with rfl | rfl
    · exact hrest.1
    · exact hrest.2
  have hlength := hbody.length_le
  have hfuel : s.length < (linesText quote newline t ++ rest).length + 1 := by
    rw [htext]
    simp only [List.length_cons, List.length_append]
    omega
  have hread := readLines?_of_body hbody (Nat.le_refl 2) hfuel [] hends
  rw [htext] at hread ⊢
  rcases hquote with rfl | rfl
  · exact (congrArg (readLines? '"' true _ []) htrimmed).trans hread
  · exact (congrArg (readLines? '\'' false _ []) htrimmed).trans hread

theorem Needs.quotes_eq_zero {c : Char} (h : longestRun c 0 0 s = 0) : c ∉ s := fun hmem =>
  Nat.ne_of_gt (longestRun_pos hmem 0 0) h

theorem isControl_of_needs (h : (Needs.of s).control = false) : ∀ c ∈ s, isControl c = false := by
  simpa [Needs.of] using h

theorem not_mem_newline_of_needs (h : (Needs.of s).newline = false) : '\n' ∉ s := by
  simpa [Needs.of] using h

theorem isLiteral_of_needs
    (hbasic : ¬ (!(Needs.of s).control ∧ !(Needs.of s).backslash ∧ (Needs.of s).quotes = 0 ∧
      !(Needs.of s).newline))
    (h : !(Needs.of s).control ∧ (Needs.of s).apostrophes = 0 ∧ !(Needs.of s).newline) :
    IsLiteral s := by
  obtain ⟨hcontrol, hapostrophes, hnewline⟩ := h
  have hline := not_mem_newline_of_needs (by simpa using hnewline)
  refine ⟨?_, fun c hc => ⟨?_, ?_⟩⟩
  · rintro rfl
    exact hbasic (by decide)
  · refine (isPlain_or_newline (isControl_of_needs (by simpa using hcontrol) c hc)).resolve_right ?_
    rintro rfl
    exact hline hc
  · rintro rfl
    exact Needs.quotes_eq_zero hapostrophes hc

theorem readString?_stringText (hrest : EndsString rest) :
    readString? (stringText s ++ rest) = some (String.ofList s, rest) := by
  unfold stringText
  dsimp only
  split
  · exact readString?_basicText hrest
  · rename_i hbasic
    split
    · rename_i hliteral
      exact readString?_literal (isLiteral_of_needs hbasic hliteral)
    · split
      · exact readString?_lines (.inl rfl) (escaped_body 2 s)
          (fun hnewline => not_mem_newline_of_needs hnewline) hrest
      · split
        · rename_i h
          exact readString?_lines (.inr rfl) (literal_body (isControl_of_needs (by simpa using h.1))
            h.2 (Nat.zero_le 2)) (fun hnewline => not_mem_newline_of_needs hnewline) hrest
        · split
          · exact readString?_lines (.inl rfl) (escaped_body 2 s) (by simp) hrest
          · exact readString?_basicText hrest

end

/-! ## Keys -/

/-- What may follow a key: no more of it, and no quote. -/
def EndsKey (s : List Char) : Prop :=
  ∀ c, s.head? = some c → isBare c = false ∧ c ≠ '"' ∧ c ≠ '\''

theorem endsKey_cons {c : Char} (hbare : isBare c = false) (hquote : c ≠ '"')
    (hapostrophe : c ≠ '\'') (s : List Char) : EndsKey (c :: s) := by
  intro d hd
  obtain rfl : c = d := by simpa using hd
  exact ⟨hbare, hquote, hapostrophe⟩

theorem EndsKey.endsString {s : List Char} (h : EndsKey s) : EndsString s :=
  ⟨fun hhead => (h _ hhead).2.1 rfl, fun hhead => (h _ hhead).2.2 rfl⟩

theorem readSimpleKey?_quote {t : List Char} (h : ∀ u, t ≠ '"' :: '"' :: u) :
    readSimpleKey? ('"' :: t) = readString? ('"' :: t) := by
  unfold readSimpleKey?
  split
  case h_1 u heq => exact absurd (List.cons.inj heq).2 (h u)
  case h_2 heq => cases (List.cons.inj heq).1
  case h_3 => rfl
  case h_4 heq => cases (List.cons.inj heq).1
  case h_5 hnot _ => exact (hnot t rfl).elim

theorem readSimpleKey?_apostrophe {t : List Char} (h : ∀ u, t ≠ '\'' :: '\'' :: u) :
    readSimpleKey? ('\'' :: t) = readString? ('\'' :: t) := by
  unfold readSimpleKey?
  split
  case h_1 heq => cases (List.cons.inj heq).1
  case h_2 u heq => exact absurd (List.cons.inj heq).2 (h u)
  case h_3 heq => cases (List.cons.inj heq).1
  case h_4 => rfl
  case h_5 hnot => exact (hnot t rfl).elim

section

variable {s rest : List Char}

theorem readSimpleKey?_bare (hne : s ≠ []) (hbare : ∀ c ∈ s, isBare c = true)
    (hrest : EndsKey rest) : readSimpleKey? (s ++ rest) = some (String.ofList s, rest) := by
  have hbody : (s ++ rest).takeWhile isBare = s := by
    rw [List.takeWhile_append_of_pos hbare]
    cases rest with
    | nil => simp
    | cons c rest => simp [(hrest c rfl).1]
  obtain ⟨c, s, rfl⟩ := List.exists_cons_of_ne_nil hne
  have hc := hbare c List.mem_cons_self
  rw [List.cons_append] at hbody ⊢
  unfold readSimpleKey?
  split
  case h_5 =>
    rw [hbody]
    simp
  all_goals
    rename_i heq
    rw [(List.cons.inj heq).1] at hc
    cases hc

theorem readSimpleKey?_basicText (hrest : EndsKey rest) :
    readSimpleKey? (basicText s ++ rest) = some (String.ofList s, rest) := by
  have hread := readString?_basicText (s := s) hrest.endsString
  rw [basicText_append] at hread ⊢
  rw [readSimpleKey?_quote (escaped_front hrest.endsString), hread]

theorem readSimpleKey?_keyText (hrest : EndsKey rest) :
    readSimpleKey? (keyText s ++ rest) = some (String.ofList s, rest) := by
  unfold keyText
  dsimp only
  split
  · rename_i hbare
    exact readSimpleKey?_bare (by simpa using hbare.1) (by simpa using hbare.2) hrest
  · split
    · exact readSimpleKey?_basicText hrest
    · rename_i hbasic
      split
      · rename_i hliteral
        have hs := isLiteral_of_needs hbasic hliteral
        have hread : readString? ('\'' :: (s ++ ['\'']) ++ rest) = some (String.ofList s, rest) :=
          readString?_literal hs
        rw [literalText_append] at hread ⊢
        rw [readSimpleKey?_apostrophe (hs.front rest), hread]
      · exact readSimpleKey?_basicText hrest

theorem keyText_head : ∃ c t, keyText s = c :: t ∧ (isBare c = true ∨ c = '"' ∨ c = '\'') := by
  unfold keyText
  dsimp only
  split
  · rename_i hbare
    obtain ⟨c, t, rfl⟩ := List.exists_cons_of_ne_nil (l := s) (by simpa using hbare.1)
    exact ⟨c, t, rfl, .inl (List.all_eq_true.mp hbare.2 c List.mem_cons_self)⟩
  · split
    · exact ⟨_, _, rfl, .inr (.inl rfl)⟩
    · split
      · exact ⟨_, _, rfl, .inr (.inr rfl)⟩
      · exact ⟨_, _, rfl, .inr (.inl rfl)⟩

end

end FlowConsole.Toml
