import FlowConsole.Config.Environment
import FlowConsole.Proofs.Text.Split
/-!
The grammar of quoted texts, lists and maps.

A word without quotes goes on to the next separator, with the blanks in it. So a value in a list or a
map has to be followed by a separator, and then its reader takes neither more nor less of a text than
the grammar does.
-/
namespace FlowConsole.Environment

open Config (Scalar Setting)

/-! ## Texts in quotes -/

def IsHex (c : Char) : Prop :=
  c.isDigit = true ∨ ('a' ≤ c ∧ c ≤ 'f') ∨ ('A' ≤ c ∧ c ≤ 'F')

/-- What follows a backslash in quotes: a letter, or the digits of a character. -/
inductive IsEscape : List Char → Prop
  | short {c : Char} (h : c ∈ ['b', 't', 'n', 'f', 'r', '"', '\\']) : IsEscape [c]
  | code {c : Char} {digits : List Char}
      (hlength : c = 'u' ∧ digits.length = 4 ∨ c = 'U' ∧ digits.length = 8)
      (hdigits : ∀ d ∈ digits, IsHex d) (hvalid : (Toml.natOfDigits 16 digits).isValidChar) :
      IsEscape (c :: digits)

/-- A text in quotes, without its opening quote. -/
inductive IsQuoted : List Char → Prop
  | close : IsQuoted ['"']
  | plain {c : Char} {s : List Char} (hquote : c ≠ '"') (hslash : c ≠ '\\') (h : IsQuoted s) :
      IsQuoted (c :: s)
  | escape {e s : List Char} (he : IsEscape e) (h : IsQuoted s) : IsQuoted ('\\' :: (e ++ s))

theorem isHex_iff {c : Char} : IsHex c ↔ ∃ n, Toml.hexValue? c = some n := by
  unfold IsHex Toml.hexValue?
  split
  · simp_all
  · split
    · simp_all
    · split <;> simp_all

theorem foldlM_hexValue? {digits : List Char} {m n : Nat} :
    digits.foldlM (fun n c => (Toml.hexValue? c).map (n * 16 + ·)) m = some n ↔
      (∀ d ∈ digits, IsHex d) ∧
        digits.foldl (fun n c => n * 16 + (Toml.hexValue? c).getD 0) m = n := by
  induction digits generalizing m with
  | nil => simp
  | cons c digits ih =>
      rw [List.foldlM_cons, List.foldl_cons, List.forall_mem_cons, isHex_iff]
      cases Toml.hexValue? c with
      | none => simp
      | some value => simpa using ih

theorem readCode?_eq_some_iff {count : Nat} {s rest : List Char} {c : Char} :
    Toml.readCode? count s = some (c, rest) ↔
      ∃ digits, s = digits ++ rest ∧ digits.length = count ∧ (∀ d ∈ digits, IsHex d) ∧
        (Toml.natOfDigits 16 digits).isValidChar ∧
        Char.ofNat (Toml.natOfDigits 16 digits) = c := by
  have hvalid : ∀ n : Nat, n ≤ 0x10FFFF ∧ ¬(0xD800 ≤ n ∧ n ≤ 0xDFFF) ↔ n.isValidChar := by
    intro n
    unfold Nat.isValidChar
    omega
  unfold Toml.readCode? Toml.natOfDigits
  dsimp only
  constructor
  · intro h
    split at h
    · cases h
    · rename_i hlength
      obtain ⟨n, hn, h⟩ := Option.bind_eq_some_iff.mp h
      obtain ⟨hdigits, rfl⟩ := foldlM_hexValue?.mp hn
      split at h
      · rename_i hcode
        obtain ⟨rfl, rfl⟩ := Prod.mk.inj (Option.some.inj h)
        refine ⟨_, (List.take_append_drop count s).symm, ?_, hdigits, (hvalid _).mp hcode, rfl⟩
        exact Nat.le_antisymm (List.length_take_le count s) (Nat.not_lt.mp hlength)
      · cases h
  · rintro ⟨digits, rfl, rfl, hdigits, hcode, rfl⟩
    rw [List.take_left, List.drop_left, if_neg (Nat.lt_irrefl _), foldlM_hexValue?.mpr ⟨hdigits, rfl⟩]
    exact if_pos ((hvalid _).mpr hcode)

theorem readEscape?_eq_some {s rest : List Char} {c : Char}
    (h : Toml.readEscape? s = some (c, rest)) : ∃ e, s = e ++ rest ∧ IsEscape e := by
  unfold Toml.readEscape? at h
  split at h
  case h_8 =>
    obtain ⟨digits, rfl, hlength, hdigits, hvalid, -⟩ := readCode?_eq_some_iff.mp h
    exact ⟨_, rfl, .code (.inl ⟨rfl, hlength⟩) hdigits hvalid⟩
  case h_9 =>
    obtain ⟨digits, rfl, hlength, hdigits, hvalid, -⟩ := readCode?_eq_some_iff.mp h
    exact ⟨_, rfl, .code (.inr ⟨rfl, hlength⟩) hdigits hvalid⟩
  case h_10 => cases h
  all_goals
    obtain ⟨-, rfl⟩ := Prod.mk.inj (Option.some.inj h)
    exact ⟨[_], rfl, .short (by decide)⟩

namespace IsEscape

variable {e : List Char} (h : IsEscape e)
include h

theorem ne_nil : e ≠ [] := by
  cases h <;> exact List.cons_ne_nil _ _

theorem read (rest : List Char) : ∃ c, Toml.readEscape? (e ++ rest) = some (c, rest) := by
  cases h with
  | @short c h =>
      simp only [List.mem_cons, List.not_mem_nil, or_false] at h
      rcases h with rfl | rfl | rfl | rfl | rfl | rfl | rfl <;> exact ⟨_, rfl⟩
  | @code c digits hlength hdigits hvalid =>
      refine ⟨Char.ofNat (Toml.natOfDigits 16 digits), ?_⟩
      rcases hlength with ⟨rfl, hlength⟩ | ⟨rfl, hlength⟩ <;>
        exact readCode?_eq_some_iff.mpr ⟨digits, rfl, hlength, hdigits, hvalid, rfl⟩

end IsEscape

/-- The text is shorter than it is in its quotes. -/
theorem readQuoted?_eq_some {fuel : Nat} {seen s rest : List Char} {t : String}
    (h : readQuoted? fuel seen s = some (t, rest)) :
    ∃ q, s = q ++ rest ∧ IsQuoted q ∧ t.length < seen.length + q.length := by
  induction fuel generalizing seen s with
  | zero => cases h
  | succ fuel ih =>
      cases s with
      | nil => cases h
      | cons c s =>
          rw [readQuoted?] at h
          split at h
          · rename_i hquote
            obtain ⟨rfl, rfl⟩ := Prod.mk.inj (Option.some.inj h)
            exact ⟨['"'], by rw [hquote]; rfl, .close, by simp⟩
          · rename_i hquote
            split at h
            · rename_i hslash
              split at h
              · rename_i c' after hread
                obtain ⟨e, rfl, he⟩ := readEscape?_eq_some hread
                obtain ⟨q, rfl, hq, hlength⟩ := ih h
                refine ⟨'\\' :: (e ++ q), by simp [hslash], .escape he hq, ?_⟩
                simp only [List.length_cons, List.length_append] at hlength ⊢
                omega
              · cases h
            · rename_i hslash
              obtain ⟨q, rfl, hq, hlength⟩ := ih h
              refine ⟨c :: q, rfl, .plain hquote hslash hq, ?_⟩
              simp only [List.length_cons] at hlength ⊢
              omega

theorem IsQuoted.read {q : List Char} (h : IsQuoted q) (rest seen : List Char) (fuel : Nat)
    (hfuel : q.length ≤ fuel) : ∃ t, readQuoted? fuel seen (q ++ rest) = some (t, rest) := by
  induction h generalizing seen fuel with
  | close =>
      obtain ⟨fuel, rfl⟩ := Nat.exists_eq_add_of_le' hfuel
      exact ⟨_, rfl⟩
  | @plain c s hquote hslash _ ih =>
      obtain ⟨fuel, rfl⟩ := Nat.exists_eq_add_of_le' ((Nat.succ_pos _).trans_le hfuel)
      rw [List.cons_append, readQuoted?, if_neg hquote, if_neg hslash]
      exact ih _ _ (Nat.le_of_succ_le_succ hfuel)
  | @escape e s he _ ih =>
      obtain ⟨fuel, rfl⟩ := Nat.exists_eq_add_of_le' ((Nat.succ_pos _).trans_le hfuel)
      obtain ⟨c, hc⟩ := he.read (s ++ rest)
      rw [List.cons_append, List.append_assoc, readQuoted?, if_neg (by decide), if_pos rfl, hc]
      refine ih _ _ ?_
      simp only [List.length_cons, List.length_append] at hfuel
      omega

/-! ## Blanks -/

def IsSpaces (s : List Char) : Prop := ∀ c ∈ s, isSpace c = true

theorem isSpace_iff {c : Char} :
    isSpace c = true ↔ c = ' ' ∨ c = '\t' ∨ c = '\n' ∨ c = '\r' ∨ c = '\x0c' := by
  simp [isSpace, or_assoc]

theorem isSeparator_iff {c : Char} :
    isSeparator c = true ↔ c = ',' ∨ c = '\x7b' ∨ c = '\x7d' ∨ c = '[' ∨ c = ']' := by
  simp [isSeparator, or_assoc]

theorem skipSpace_append {before : List Char} (h : IsSpaces before) (s : List Char) :
    skipSpace (before ++ s) = skipSpace s :=
  List.dropWhile_append_of_pos h

theorem skipSpace_eq_self {s : List Char} (h : ∀ c, s.head? = some c → isSpace c = false) :
    skipSpace s = s := by
  refine List.dropWhile_eq_self_iff.mpr fun hpos hspace => ?_
  rw [h _ (List.head?_eq_getElem? ▸ List.getElem?_eq_getElem hpos)] at hspace
  cases hspace

theorem exists_spaces (s : List Char) : ∃ before, s = before ++ skipSpace s ∧ IsSpaces before :=
  ⟨s.takeWhile isSpace, List.takeWhile_append_dropWhile.symm, fun _ => List.mem_takeWhile_imp⟩

theorem isSpace_head_skipSpace {s : List Char} {c : Char} (h : (skipSpace s).head? = some c) :
    isSpace c = false := by
  have hhead := List.head?_dropWhile_not isSpace s
  rw [skipSpace] at h
  rw [h] at hhead
  exact hhead

theorem isBare_of_isSpace {c : Char} (h : isSpace c = true) : Toml.isBare c = false := by
  rcases isSpace_iff.mp h with rfl | rfl | rfl | rfl | rfl <;> decide

theorem isSpace_of_isSeparator {c : Char} (h : isSeparator c = true) : isSpace c = false := by
  rcases isSeparator_iff.mp h with rfl | rfl | rfl | rfl | rfl <;> decide

/-! ## Values that hold no others -/

inductive IsLiteral : List Char → Prop
  | truth (b : Bool) : IsLiteral (toString b).toList
  | quoted {s : List Char} (h : IsQuoted s) : IsLiteral ('"' :: s)
  | character (c : Char) : IsLiteral ['\'', c, '\'']

/-- A value that goes on to the next separator. -/
structure IsWord (s : List Char) : Prop where
  notSeparator : ∀ c ∈ s, isSeparator c = false
  first : ∀ c, s.head? = some c → isSpace c = false ∧ c ≠ '"' ∧ c ≠ '\''
  notTruth : ∀ b : Bool, ¬ (toString b).toList <+: s

theorem word?_eq_some {word s rest : List Char} (h : Toml.word? word s = some rest) :
    s = word ++ rest := by
  unfold Toml.word? at h
  split at h
  · rename_i htake
    obtain rfl := Option.some.inj h
    exact (List.take_append_drop word.length s).symm.trans (by rw [beq_iff_eq.mp htake])
  · cases h

theorem word?_append (word rest : List Char) : Toml.word? word (word ++ rest) = some rest := by
  rw [Toml.word?, List.take_left, if_pos (beq_self_eq_true word), List.drop_left]

theorem word?_eq_none_iff {word s : List Char} : Toml.word? word s = none ↔ ¬ word <+: s := by
  constructor
  · rintro hread ⟨rest, rfl⟩
    rw [word?_append] at hread
    cases hread
  · intro h
    cases hread : Toml.word? word s with
    | none => rfl
    | some rest => exact absurd ⟨rest, (word?_eq_some hread).symm⟩ h

theorem not_truth_of_ends {b : Bool} {s rest : List Char} (h : ¬ (toString b).toList <+: s)
    (hrest : ∀ c, rest.head? = some c → isSeparator c = true) :
    ¬ (toString b).toList <+: s ++ rest := by
  intro hprefix
  rcases List.prefix_or_prefix_of_prefix hprefix (List.prefix_append s rest) with hs | ⟨more, hmore⟩
  · exact h hs
  · rw [← hmore, List.prefix_append_right_inj] at hprefix
    cases more with
    | nil => exact h ⟨[], by rw [List.append_nil, ← hmore, List.append_nil]⟩
    | cons c more =>
        obtain ⟨back, rfl⟩ := hprefix
        have hsep := hrest c rfl
        have hmem : c ∈ (toString b).toList := by rw [← hmore]; simp
        have hnone : (toString b).toList.all fun c => !isSeparator c := by cases b <;> rfl
        have hnot := List.all_eq_true.mp hnone c hmem
        rw [hsep] at hnot
        cases hnot

theorem isWord_takeWhile {s : List Char}
    (hfirst : ∀ c, s.head? = some c → isSpace c = false ∧ c ≠ '"' ∧ c ≠ '\'')
    (htruth : ∀ b : Bool, ¬ (toString b).toList <+: s) :
    IsWord (s.takeWhile fun c => !isSeparator c) where
  notSeparator c hc := by simpa using List.mem_takeWhile_imp hc
  first c hc := by
    rw [List.head?_takeWhile] at hc
    exact hfirst c (Option.filter_eq_some_iff.mp hc).1
  notTruth b hb := htruth b (hb.trans (List.takeWhile_prefix _))

theorem readScalar?_eq_some {s rest : List Char} {x : Scalar} (hs : skipSpace s = s)
    (h : readScalar? s = some (x, rest)) :
    ∃ t, s = t ++ rest ∧ (IsLiteral t ∨ IsWord t ∧ x = word (Text.trimChars t) ∧
      ∀ c, rest.head? = some c → isSeparator c = true) := by
  unfold readScalar? at h
  split at h
  · rename_i r hword
    obtain ⟨-, rfl⟩ := Prod.mk.inj (Option.some.inj h)
    exact ⟨_, word?_eq_some hword, .inl (.truth true)⟩
  · rename_i htrue
    split at h
    · rename_i r hword
      obtain ⟨-, rfl⟩ := Prod.mk.inj (Option.some.inj h)
      exact ⟨_, word?_eq_some hword, .inl (.truth false)⟩
    · rename_i hfalse
      split at h
      · obtain ⟨⟨t, after⟩, hread, heq⟩ := Option.map_eq_some_iff.mp h
        obtain ⟨-, rfl⟩ := Prod.mk.inj heq
        obtain ⟨q, rfl, hq, -⟩ := readQuoted?_eq_some hread
        exact ⟨'"' :: q, rfl, .inl (.quoted hq)⟩
      · obtain ⟨-, rfl⟩ := Prod.mk.inj (Option.some.inj h)
        exact ⟨['\'', _, '\''], rfl, .inl (.character _)⟩
      · cases h
      · rename_i hquote hcharacter hapostrophe
        dsimp only at h
        rw [Text.drop_length_takeWhile] at h
        obtain ⟨rfl, rfl⟩ := Prod.mk.inj (Option.some.inj h)
        refine ⟨_, List.takeWhile_append_dropWhile.symm, .inr ⟨isWord_takeWhile ?first ?truth, rfl,
          fun c hc => ?ends⟩⟩
        case first =>
          intro c hc
          obtain ⟨t, rfl⟩ := List.head?_eq_some_iff.mp hc
          refine ⟨isSpace_head_skipSpace (s := c :: t) (by rw [hs]; rfl), ?_, ?_⟩
          · rintro rfl
            exact hquote _ rfl
          · rintro rfl
            exact hapostrophe _ rfl
        case truth =>
          intro b
          cases b with
          | true => exact word?_eq_none_iff.mp htrue
          | false => exact word?_eq_none_iff.mp hfalse
        case ends =>
          have hhead := List.head?_dropWhile_not (fun c => !isSeparator c) s
          rw [hc] at hhead
          simpa using hhead

theorem IsLiteral.read {s : List Char} (h : IsLiteral s) (rest : List Char) :
    ∃ x, readScalar? (s ++ rest) = some (x, rest) := by
  cases h with
  | truth b => cases b <;> exact ⟨_, rfl⟩
  | @quoted s h =>
      obtain ⟨t, ht⟩ := h.read rest [] ((s ++ rest).length + 1) (by simp; omega)
      refine ⟨.text t, ?_⟩
      rw [List.cons_append]
      change (readQuoted? _ [] (s ++ rest)).map _ = _
      rw [ht]
      rfl
  | character c => exact ⟨_, rfl⟩

theorem IsWord.read {s rest : List Char} (h : IsWord s)
    (hrest : ∀ c, rest.head? = some c → isSeparator c = true) :
    readScalar? (s ++ rest) = some (word (Text.trimChars s), rest) := by
  have hhead : ∀ c, (s ++ rest).head? = some c → c ≠ '"' ∧ c ≠ '\'' := by
    intro c hc
    cases s with
    | nil =>
        have hsep := hrest c hc
        constructor <;> rintro rfl <;> cases hsep
    | cons d s => exact (h.first c hc).2
  have htake : (s ++ rest).takeWhile (fun c => !isSeparator c) = s := by
    refine Text.takeWhile_append_of_ends (fun c hc => ?_) fun c hc => ?_
    · rw [h.notSeparator c hc]
      rfl
    · rw [hrest c hc]
      rfl
  have htrue : Toml.word? ['t', 'r', 'u', 'e'] (s ++ rest) = none :=
    word?_eq_none_iff.mpr (not_truth_of_ends (h.notTruth true) hrest)
  have hfalse : Toml.word? ['f', 'a', 'l', 's', 'e'] (s ++ rest) = none :=
    word?_eq_none_iff.mpr (not_truth_of_ends (h.notTruth false) hrest)
  unfold readScalar?
  rw [htrue, hfalse]
  dsimp only
  split
  · rename_i heq
    exact absurd rfl (hhead _ (congrArg List.head? heq)).1
  · rename_i heq
    exact absurd rfl (hhead _ (congrArg List.head? heq)).2
  · rename_i heq
    exact absurd rfl (hhead _ (congrArg List.head? heq)).2
  · rw [htake, List.drop_left]

/-! ## Lists and maps -/

/-- The key of an entry, with blanks around it. -/
inductive IsKey : List Char → Prop
  | bare {before key after : List Char} (hbefore : IsSpaces before) (hne : key ≠ [])
      (h : ∀ c ∈ key, Toml.isBare c = true) (hafter : IsSpaces after) :
      IsKey (before ++ (key ++ after))
  | quoted {before key after : List Char} (hbefore : IsSpaces before) (h : IsQuoted key)
      (hafter : IsSpaces after) : IsKey (before ++ '"' :: (key ++ after))

mutual

/-- A value that shows where it ends. -/
inductive IsClosed : List Char → Prop
  | literal {s : List Char} (h : IsLiteral s) : IsClosed s
  | list {s : List Char} (h : IsItems s) : IsClosed ('[' :: s)
  | map {s : List Char} (h : IsEntries s) : IsClosed ('\x7b' :: s)

/-- A value in a list or a map, with blanks around it. A word may be empty. -/
inductive IsValue : List Char → Prop
  | word {before s : List Char} (hbefore : IsSpaces before) (h : IsWord s) : IsValue (before ++ s)
  | closed {before s after : List Char} (hbefore : IsSpaces before) (h : IsClosed s)
      (hafter : IsSpaces after) : IsValue (before ++ (s ++ after))

/-- A list without its opening bracket. A comma may stand behind the last item. -/
inductive IsItems : List Char → Prop
  | nil : IsItems [']']
  | last {s : List Char} (h : IsValue s) : IsItems (s ++ [']'])
  | cons {s rest : List Char} (h : IsValue s) (hrest : IsItems rest) : IsItems (s ++ ',' :: rest)

/-- A map without its opening brace. A comma may stand behind the last entry. -/
inductive IsEntries : List Char → Prop
  | nil : IsEntries ['\x7d']
  | last {key s : List Char} (hkey : IsKey key) (h : IsValue s) :
      IsEntries (key ++ '=' :: (s ++ ['\x7d']))
  | cons {key s rest : List Char} (hkey : IsKey key) (h : IsValue s) (hrest : IsEntries rest) :
      IsEntries (key ++ '=' :: (s ++ ',' :: rest))

end

theorem readKey?_eq_some {s rest : List Char} {key : String}
    (h : readKey? (skipSpace s) = some (key, rest)) :
    ∃ k, s = k ++ skipSpace rest ∧ IsKey k := by
  obtain ⟨before, hs, hbefore⟩ := exists_spaces s
  obtain ⟨after, hrest, hafter⟩ := exists_spaces rest
  unfold readKey? at h
  split at h
  · rename_i t heq
    obtain ⟨q, rfl, hq, -⟩ := readQuoted?_eq_some h
    refine ⟨before ++ '"' :: (q ++ after), ?_, .quoted hbefore hq hafter⟩
    rw [List.append_assoc, List.cons_append, List.append_assoc, ← hrest, ← heq]
    exact hs
  · rename_i t hquote
    dsimp only at h
    split at h
    · cases h
    · rename_i hne
      rw [Text.drop_length_takeWhile] at h
      obtain ⟨-, rfl⟩ := Prod.mk.inj (Option.some.inj h)
      refine ⟨before ++ ((skipSpace s).takeWhile Toml.isBare ++ after), ?_,
        .bare hbefore (by simpa using hne) (fun c => List.mem_takeWhile_imp) hafter⟩
      rw [List.append_assoc, List.append_assoc, ← hrest, List.takeWhile_append_dropWhile]
      exact hs

theorem IsKey.read {k : List Char} (h : IsKey k) (rest : List Char) :
    ∃ key after, readKey? (skipSpace (k ++ '=' :: rest)) = some (key, after) ∧
      skipSpace after = '=' :: rest := by
  cases h with
  | @bare before key after hbefore hne h hafter =>
      refine ⟨String.ofList key, after ++ '=' :: rest, ?_, skipSpace_append hafter _⟩
      have htake : (key ++ (after ++ '=' :: rest)).takeWhile Toml.isBare = key := by
        refine Text.takeWhile_append_of_ends h ?_
        cases after with
        | nil =>
            rintro _ ⟨⟩
            decide
        | cons c after =>
            rintro _ ⟨⟩
            exact isBare_of_isSpace (hafter c List.mem_cons_self)
      have hhead : ∀ c, (key ++ (after ++ '=' :: rest)).head? = some c → Toml.isBare c = true := by
        intro c hc
        cases key with
        | nil => exact absurd rfl hne
        | cons d key => exact Option.some.inj hc ▸ h d List.mem_cons_self
      have hfirst : skipSpace (key ++ (after ++ '=' :: rest)) = key ++ (after ++ '=' :: rest) := by
        refine skipSpace_eq_self fun c hc => ?_
        rw [Bool.eq_false_iff]
        intro hspace
        cases (isBare_of_isSpace hspace).symm.trans (hhead c hc)
      rw [List.append_assoc, List.append_assoc, skipSpace_append hbefore, hfirst]
      unfold readKey?
      split
      · rename_i heq
        cases hhead '"' (congrArg List.head? heq)
      · dsimp only
        rw [htake, if_neg (by simpa using hne), List.drop_left]
  | @quoted before key after hbefore h hafter =>
      obtain ⟨t, ht⟩ := h.read (after ++ '=' :: rest) []
        ((key ++ (after ++ '=' :: rest)).length + 1) (by simp; omega)
      refine ⟨t, after ++ '=' :: rest, ?_, skipSpace_append hafter _⟩
      simp only [List.append_assoc, List.cons_append]
      rw [skipSpace_append hbefore]
      exact ht

/-! ## Reading them -/

theorem readValue?_before {before : List Char} (h : IsSpaces before) (fuel : Nat) (s : List Char) :
    readValue? (fuel + 1) (before ++ s) = readValue? (fuel + 1) s := by
  unfold readValue?
  rw [skipSpace_append h]

/-- Whether the readers take what is in the grammar and nothing else. -/
structure Takes (fuel : Nat) : Prop where
  value : ∀ {s rest : List Char} {v : Setting}, readValue? fuel s = some (v, rest) →
    ∃ t, s = t ++ rest ∧ IsValue t
  items : ∀ {seen : List Setting} {s rest : List Char} {v : Setting},
    readItems? fuel seen s = some (v, rest) → ∃ t, s = t ++ rest ∧ IsItems t
  entries : ∀ {seen : List (String × Setting)} {s rest : List Char} {v : Setting},
    readEntries? fuel seen s = some (v, rest) → ∃ t, s = t ++ rest ∧ IsEntries t

namespace Takes

variable {fuel : Nat} (h : Takes fuel)
include h

theorem value_cases {s rest : List Char} {v : Setting} (hs : skipSpace s = s)
    (hread : readValue? (fuel + 1) s = some (v, rest)) :
    ∃ t after, s = t ++ after ∧ skipSpace after = rest ∧
      (IsClosed t ∨ IsWord t ∧ v = .scalar .environment (word (Text.trimChars t)) ∧
        ∀ c, after.head? = some c → isSeparator c = true) := by
  unfold readValue? at hread
  rw [hs] at hread
  obtain ⟨⟨value, after⟩, hcore, heq⟩ := Option.map_eq_some_iff.mp hread
  obtain ⟨rfl, rfl⟩ := Prod.mk.inj heq
  split at hcore
  · obtain ⟨entries, rfl, hentries⟩ := h.entries hcore
    exact ⟨_, after, rfl, rfl, .inl (.map hentries)⟩
  · obtain ⟨items, rfl, hitems⟩ := h.items hcore
    exact ⟨_, after, rfl, rfl, .inl (.list hitems)⟩
  · obtain ⟨⟨x, _⟩, hscalar, heq⟩ := Option.map_eq_some_iff.mp hcore
    obtain ⟨rfl, rfl⟩ := Prod.mk.inj heq
    obtain ⟨t, ht, hliteral | ⟨hword, rfl, hends⟩⟩ := readScalar?_eq_some hs hscalar
    · exact ⟨t, _, ht, rfl, .inl (.literal hliteral)⟩
    · exact ⟨t, _, ht, rfl, .inr ⟨hword, rfl, hends⟩⟩

theorem value_succ {s rest : List Char} {v : Setting}
    (hread : readValue? (fuel + 1) s = some (v, rest)) : ∃ t, s = t ++ rest ∧ IsValue t := by
  obtain ⟨before, hs, hbefore⟩ := exists_spaces s
  have hskip : skipSpace (skipSpace s) = skipSpace s :=
    skipSpace_eq_self fun _ => isSpace_head_skipSpace
  rw [hs, readValue?_before hbefore] at hread
  obtain ⟨t, more, ht, rfl, hclosed | ⟨hword, -, hends⟩⟩ := h.value_cases hskip hread
  · obtain ⟨after, hmore, hafter⟩ := exists_spaces more
    refine ⟨_, ?_, .closed hbefore hclosed hafter⟩
    rw [List.append_assoc, List.append_assoc, ← hmore, ← ht]
    exact hs
  · refine ⟨_, ?_, .word hbefore hword⟩
    rw [skipSpace_eq_self fun c hc => isSpace_of_isSeparator (hends c hc), List.append_assoc, ← ht]
    exact hs

theorem items_succ {seen : List Setting} {s rest : List Char} {v : Setting}
    (hread : readItems? (fuel + 1) seen s = some (v, rest)) : ∃ t, s = t ++ rest ∧ IsItems t := by
  unfold readItems? at hread
  split at hread
  · obtain ⟨-, rfl⟩ := Prod.mk.inj (Option.some.inj hread)
    exact ⟨[']'], rfl, .nil⟩
  · split at hread
    · rename_i item more hvalue
      obtain ⟨t, rfl, ht⟩ := h.value hvalue
      obtain ⟨items, rfl, hitems⟩ := h.items hread
      exact ⟨t ++ ',' :: items, by simp, .cons ht hitems⟩
    · rename_i item more hvalue
      obtain ⟨t, rfl, ht⟩ := h.value hvalue
      obtain ⟨-, rfl⟩ := Prod.mk.inj (Option.some.inj hread)
      exact ⟨t ++ [']'], by simp, .last ht⟩
    · cases hread

theorem entries_succ {seen : List (String × Setting)} {s rest : List Char} {v : Setting}
    (hread : readEntries? (fuel + 1) seen s = some (v, rest)) :
    ∃ t, s = t ++ rest ∧ IsEntries t := by
  unfold readEntries? at hread
  split at hread
  · obtain ⟨-, rfl⟩ := Prod.mk.inj (Option.some.inj hread)
    exact ⟨['\x7d'], rfl, .nil⟩
  · split at hread
    · cases hread
    · rename_i key more hkey
      obtain ⟨k, hk, hkey⟩ := readKey?_eq_some hkey
      split at hread
      · rename_i value hequals
        rw [hequals] at hk
        split at hread
        · rename_i item more hvalue
          obtain ⟨t, rfl, ht⟩ := h.value hvalue
          obtain ⟨entries, rfl, hentries⟩ := h.entries hread
          exact ⟨k ++ '=' :: (t ++ ',' :: entries), by simp [hk], .cons hkey ht hentries⟩
        · rename_i item more hvalue
          obtain ⟨t, rfl, ht⟩ := h.value hvalue
          obtain ⟨-, rfl⟩ := Prod.mk.inj (Option.some.inj hread)
          exact ⟨k ++ '=' :: (t ++ ['\x7d']), by simp [hk], .last hkey ht⟩
        · cases hread
      · cases hread

end Takes

theorem takes (fuel : Nat) : Takes fuel := by
  induction fuel with
  | zero => exact ⟨nofun, nofun, nofun⟩
  | succ fuel ih => exact ⟨ih.value_succ, ih.items_succ, ih.entries_succ⟩

inductive IsStop : List Char → Prop
  | comma (rest : List Char) : IsStop (',' :: rest)
  | bracket (rest : List Char) : IsStop (']' :: rest)
  | brace (rest : List Char) : IsStop ('\x7d' :: rest)

theorem IsStop.isSeparator {rest : List Char} (h : IsStop rest) :
    ∀ c, rest.head? = some c → isSeparator c = true := by
  cases h <;> rintro _ ⟨⟩ <;> rfl

theorem IsStop.skipSpace_eq {rest : List Char} (h : IsStop rest) : skipSpace rest = rest :=
  skipSpace_eq_self fun c hc => isSpace_of_isSeparator (h.isSeparator c hc)

theorem readValue?_of_readScalar? {s rest : List Char} {x : Scalar} (fuel : Nat)
    (hspace : skipSpace s = s) (hhead : ∀ c, s.head? = some c → c ≠ '[' ∧ c ≠ '\x7b')
    (h : readScalar? s = some (x, rest)) :
    readValue? (fuel + 1) s = some (.scalar .environment x, skipSpace rest) := by
  unfold readValue?
  rw [hspace]
  split
  · exact absurd rfl (hhead _ rfl).2
  · exact absurd rfl (hhead _ rfl).1
  · rw [h]
    rfl

theorem IsLiteral.head {s : List Char} (h : IsLiteral s) :
    ∃ c t, s = c :: t ∧ c ∈ ['t', 'f', '"', '\''] := by
  cases h with
  | truth b => cases b <;> exact ⟨_, _, rfl, by decide⟩
  | quoted | character => exact ⟨_, _, rfl, by decide⟩

theorem IsWord.readValue? {s rest : List Char} (h : IsWord s) (hrest : IsStop rest) (fuel : Nat) :
    ∃ v, readValue? (fuel + 1) (s ++ rest) = some (v, rest) := by
  have hhead : ∀ c, (s ++ rest).head? = some c → isSpace c = false ∧ c ≠ '[' ∧ c ≠ '\x7b' := by
    intro c hc
    cases s with
    | nil =>
        cases hrest <;> cases hc <;> decide
    | cons d s =>
        obtain rfl : d = c := Option.some.inj hc
        refine ⟨(h.first d rfl).1, ?_, ?_⟩ <;> rintro rfl <;>
          cases h.notSeparator _ List.mem_cons_self
  have hread := readValue?_of_readScalar? fuel (skipSpace_eq_self fun c hc => (hhead c hc).1)
    (fun c hc => (hhead c hc).2) (h.read hrest.isSeparator)
  rw [hrest.skipSpace_eq] at hread
  exact ⟨_, hread⟩

theorem IsLiteral.readValue? {s rest : List Char} (h : IsLiteral s) (fuel : Nat) :
    ∃ v, readValue? (fuel + 1) (s ++ rest) = some (v, skipSpace rest) := by
  have hhead : ∀ c, (s ++ rest).head? = some c → isSpace c = false ∧ c ≠ '[' ∧ c ≠ '\x7b' := by
    obtain ⟨d, t, rfl, hd⟩ := h.head
    rintro _ ⟨⟩
    simp only [List.mem_cons, List.not_mem_nil, or_false] at hd
    rcases hd with rfl | rfl | rfl | rfl <;> decide
  obtain ⟨x, hx⟩ := h.read rest
  exact ⟨_, readValue?_of_readScalar? fuel (skipSpace_eq_self fun c hc => (hhead c hc).1)
    (fun c hc => (hhead c hc).2) hx⟩

theorem head_ne_of_spaces {before rest : List Char} {d : Char} (hbefore : IsSpaces before)
    (hd : isSpace d = false) (hrest : ∀ c, rest.head? = some c → c ≠ d) :
    ∀ c, (before ++ rest).head? = some c → c ≠ d := by
  intro c hc
  cases before with
  | nil => exact hrest c hc
  | cons b before =>
      obtain rfl : b = c := Option.some.inj hc
      rintro rfl
      cases hd.symm.trans (hbefore _ List.mem_cons_self)

theorem IsValue.head_ne {s : List Char} (h : IsValue s) : ∀ c, s.head? = some c → c ≠ ']' := by
  cases h with
  | word hbefore h =>
      refine head_ne_of_spaces hbefore rfl fun c hc => ?_
      rintro rfl
      cases h.notSeparator _ (List.mem_of_head? hc)
  | closed hbefore h _ =>
      refine head_ne_of_spaces hbefore rfl ?_
      cases h with
      | literal h =>
          obtain ⟨d, t, rfl, hd⟩ := h.head
          rintro _ ⟨⟩ rfl
          simp at hd
      | list | map =>
          rintro _ ⟨⟩
          decide

theorem IsValue.eq_nil_or_head_ne {s : List Char} (h : IsValue s) :
    s = [] ∨ ∀ rest c, (s ++ rest).head? = some c → c ≠ ']' := by
  cases s with
  | nil => exact .inl rfl
  | cons d s => exact .inr fun _ => h.head_ne

theorem IsKey.head_ne {k : List Char} (h : IsKey k) (rest : List Char) :
    ∀ c, (k ++ rest).head? = some c → c ≠ '\x7d' := by
  cases h with
  | @bare before key after hbefore hne h _ =>
      rw [List.append_assoc]
      refine head_ne_of_spaces hbefore rfl ?_
      cases key with
      | nil => exact absurd rfl hne
      | cons d key =>
          rintro _ ⟨⟩ rfl
          cases h _ List.mem_cons_self
  | quoted hbefore _ _ =>
      rw [List.append_assoc]
      refine head_ne_of_spaces hbefore rfl ?_
      rintro _ ⟨⟩
      decide

section

variable {fuel : Nat} {s rest : List Char} {v : Setting}

theorem readValue?_list (h : readItems? fuel [] s = some (v, rest)) :
    readValue? (fuel + 1) ('[' :: s) = some (v, skipSpace rest) := by
  change (readItems? fuel [] s).map _ = _
  rw [h]
  rfl

theorem readValue?_map (h : readEntries? fuel [] s = some (v, rest)) :
    readValue? (fuel + 1) ('\x7b' :: s) = some (v, skipSpace rest) := by
  change (readEntries? fuel [] s).map _ = _
  rw [h]
  rfl

theorem readItems?_last (seen : List Setting) (hs : ∀ c, s.head? = some c → c ≠ ']')
    (h : readValue? fuel s = some (v, ']' :: rest)) :
    ∃ items, readItems? (fuel + 1) seen s = some (items, rest) := by
  unfold readItems?
  split
  · exact absurd rfl (hs _ rfl)
  · rw [h]
    exact ⟨_, rfl⟩

theorem readItems?_cons {seen : List Setting} (hs : ∀ c, s.head? = some c → c ≠ ']')
    (h : readValue? fuel s = some (v, ',' :: rest)) {r : Setting × List Char}
    (hmore : readItems? fuel (v :: seen) rest = some r) :
    readItems? (fuel + 1) seen s = some r := by
  unfold readItems?
  split
  · exact absurd rfl (hs _ rfl)
  · rw [h]
    exact hmore

variable {key : String} {after t : List Char} {seen : List (String × Setting)}
  (hs : ∀ c, s.head? = some c → c ≠ '\x7d') (hkey : readKey? (skipSpace s) = some (key, after))
  (hequals : skipSpace after = '=' :: t)
include hs hkey hequals

theorem readEntries?_last (h : readValue? fuel t = some (v, '\x7d' :: rest)) :
    ∃ entries, readEntries? (fuel + 1) seen s = some (entries, rest) := by
  unfold readEntries?
  split
  · exact absurd rfl (hs _ rfl)
  · simp only [hkey, hequals, h]
    exact ⟨_, rfl⟩

theorem readEntries?_cons (h : readValue? fuel t = some (v, ',' :: rest)) {r : Setting × List Char}
    (hmore : readEntries? fuel (Entries.insert key v seen) rest = some r) :
    readEntries? (fuel + 1) seen s = some r := by
  unfold readEntries?
  split
  · exact absurd rfl (hs _ rfl)
  · simp only [hkey, hequals, h]
    exact hmore

end

/-! The fuel is twice the length of what is to be read, and one more for a value. -/

theorem exists_fuel {s : List Char} {fuel : Nat} (hs : s ≠ []) (hfuel : 2 * s.length ≤ fuel) :
    ∃ n, fuel = n + 1 :=
  Nat.exists_eq_add_of_le' ((Nat.mul_pos Nat.two_pos (List.length_pos_iff.mpr hs)).trans_le hfuel)

theorem IsClosed.ne_nil {s : List Char} (h : IsClosed s) : s ≠ [] := by
  cases h with
  | literal h =>
      obtain ⟨c, t, rfl, -⟩ := h.head
      exact List.cons_ne_nil c t
  | list | map => exact List.cons_ne_nil _ _

theorem IsItems.ne_nil {s : List Char} (h : IsItems s) : s ≠ [] := by
  cases h <;> simp

theorem IsEntries.ne_nil {s : List Char} (h : IsEntries s) : s ≠ [] := by
  cases h <;> simp

mutual

theorem IsClosed.read {s : List Char} (h : IsClosed s) (rest : List Char) (fuel : Nat)
    (hfuel : 2 * s.length ≤ fuel) :
    ∃ v, readValue? fuel (s ++ rest) = some (v, skipSpace rest) := by
  obtain ⟨fuel, rfl⟩ := exists_fuel h.ne_nil hfuel
  match h with
  | .literal h => exact h.readValue? fuel
  | .list h =>
      obtain ⟨v, hv⟩ := h.read rest [] fuel (by simp at hfuel; omega)
      exact ⟨v, readValue?_list hv⟩
  | .map h =>
      obtain ⟨v, hv⟩ := h.read rest [] fuel (by simp at hfuel; omega)
      exact ⟨v, readValue?_map hv⟩

theorem IsValue.read {s rest : List Char} (h : IsValue s) (hrest : IsStop rest) (fuel : Nat)
    (hfuel : 2 * s.length < fuel) : ∃ v, readValue? fuel (s ++ rest) = some (v, rest) := by
  obtain ⟨fuel, rfl⟩ := Nat.exists_eq_add_of_le' (Nat.zero_lt_of_lt hfuel)
  match h with
  | .word hbefore h =>
      rw [List.append_assoc, readValue?_before hbefore]
      exact h.readValue? hrest fuel
  | @IsValue.closed _ _ after hbefore h hafter =>
      rw [List.append_assoc, List.append_assoc, readValue?_before hbefore]
      obtain ⟨v, hv⟩ := h.read (after ++ rest) (fuel + 1) (by simp at hfuel; omega)
      rw [skipSpace_append hafter, hrest.skipSpace_eq] at hv
      exact ⟨v, hv⟩

theorem IsItems.read {s : List Char} (h : IsItems s) (rest : List Char) (seen : List Setting)
    (fuel : Nat) (hfuel : 2 * s.length ≤ fuel) :
    ∃ v, readItems? fuel seen (s ++ rest) = some (v, rest) := by
  obtain ⟨fuel, rfl⟩ := exists_fuel h.ne_nil hfuel
  match h with
  | .nil => exact ⟨_, rfl⟩
  | .last h =>
      rw [List.append_assoc, List.singleton_append]
      obtain ⟨v, hv⟩ := h.read (.bracket rest) fuel (by simp at hfuel ⊢; omega)
      rcases h.eq_nil_or_head_ne with rfl | hhead
      · exact ⟨_, rfl⟩
      · exact readItems?_last seen (hhead _) hv
  | @IsItems.cons _ more h hmore =>
      rw [List.append_assoc, List.cons_append]
      obtain ⟨v, hv⟩ := h.read (.comma (more ++ rest)) fuel
        (by simp at hfuel ⊢; omega)
      obtain ⟨items, hitems⟩ := hmore.read rest (v :: seen) fuel (by simp at hfuel ⊢; omega)
      refine ⟨items, readItems?_cons ?_ hv hitems⟩
      rcases h.eq_nil_or_head_ne with rfl | hhead
      · rintro _ ⟨⟩
        decide
      · exact hhead _

theorem IsEntries.read {s : List Char} (h : IsEntries s) (rest : List Char)
    (seen : List (String × Setting)) (fuel : Nat) (hfuel : 2 * s.length ≤ fuel) :
    ∃ v, readEntries? fuel seen (s ++ rest) = some (v, rest) := by
  obtain ⟨fuel, rfl⟩ := exists_fuel h.ne_nil hfuel
  match h with
  | .nil => exact ⟨_, rfl⟩
  | @IsEntries.last _ s hkey h =>
      rw [List.append_assoc, List.cons_append, List.append_assoc, List.singleton_append]
      obtain ⟨key, after, hread, hequals⟩ := hkey.read (s ++ '\x7d' :: rest)
      obtain ⟨v, hv⟩ := h.read (.brace rest) fuel (by simp at hfuel ⊢; omega)
      exact readEntries?_last (hkey.head_ne _) hread hequals hv
  | @IsEntries.cons _ s more hkey h hmore =>
      rw [List.append_assoc, List.cons_append, List.append_assoc, List.cons_append]
      obtain ⟨key, after, hread, hequals⟩ := hkey.read (s ++ ',' :: (more ++ rest))
      obtain ⟨v, hv⟩ := h.read (.comma (more ++ rest)) fuel
        (by simp at hfuel ⊢; omega)
      obtain ⟨entries, hentries⟩ := hmore.read rest (Entries.insert key v seen) fuel
        (by simp at hfuel ⊢; omega)
      exact ⟨entries, readEntries?_cons (hkey.head_ne _) hread hequals hv hentries⟩

end

end FlowConsole.Environment
