import FlowConsole.Proofs.Url.Authority
import FlowConsole.Proofs.Url.Percent
import Mathlib.Data.List.TakeWhile
/-!
The segments of a path.

A text behind segments that stand in the URL as they are ends up as one more segment, and as the
text it was, exactly when nothing in it has a meaning in a URL.
-/
namespace FlowConsole.Url

open Text

/-- Whether a character parts the segments of a path built on a host. -/
def isSlash (c : Char) : Bool := c == '/' || c == '\\'

/-- Whether a character belongs to the path, and not to query or fragment. -/
def inPath (c : Char) : Bool := !(c == '?' || c == '#')

def pathSegments (u : Url) : List (List Char) := splitOn '/' (u.path.toList.drop 1)

/-- A segment that stands in a URL as it is. -/
structure IsPlainSegment (s : List Char) : Prop where
  chars : ∀ c ∈ s, isSlash c = false ∧ encodedInPath c = false
  notDouble : isDoubleDot s = false
  notSingle : isSingleDot s = false

/-- Texts that are one segment and mean themselves. -/
structure IsOneSegment (s : List Char) : Prop where
  chars : ∀ c ∈ s, isSlash c = false ∧ inPath c = true ∧ isBreak c = false
  last : ∀ c, s.getLast? = some c → isEdge c = false
  noByte : holdsByte s = false
  notDouble : isDoubleDot s = false
  notSingle : isSingleDot s = false

instance (s : List Char) : Decidable (IsPlainSegment s) :=
  decidable_of_iff ((s.all fun c => !isSlash c && !encodedInPath c) = true ∧
    isDoubleDot s = false ∧ isSingleDot s = false) <| by
  simp only [List.all_eq_true, Bool.and_eq_true, Bool.not_eq_true']
  constructor
  · rintro ⟨hchars, hdouble, hsingle⟩
    exact ⟨hchars, hdouble, hsingle⟩
  · rintro ⟨hchars, hdouble, hsingle⟩
    exact ⟨hchars, hdouble, hsingle⟩

instance (s : List Char) : Decidable (IsOneSegment s) :=
  decidable_of_iff ((s.all fun c => !isSlash c && (inPath c && !isBreak c)) = true ∧
    (s.getLast?.all fun c => !isEdge c) = true ∧ holdsByte s = false ∧
    isDoubleDot s = false ∧ isSingleDot s = false) <| by
  simp only [List.all_eq_true, Bool.and_eq_true, Bool.not_eq_true', Option.all_eq_true]
  constructor
  · rintro ⟨hchars, hlast, hbyte, hdouble, hsingle⟩
    exact ⟨hchars, hlast, hbyte, hdouble, hsingle⟩
  · rintro ⟨hchars, hlast, hbyte, hdouble, hsingle⟩
    exact ⟨hchars, hlast, hbyte, hdouble, hsingle⟩

/-! ## Resolving dots -/

/-- What is left of some segments, the last one first, after one that means the directory above. -/
def above : List (List Char) → List (List Char)
  | [] => []
  | last :: before => if isDrive last then last :: before else before

theorem resolve_nil (done : List (List Char)) : resolve done [] = done.reverse := by
  cases done <;> rfl

theorem resolve_cons (done : List (List Char)) (s : List Char) (rest : List (List Char)) :
    resolve done (s :: rest) =
      if isDoubleDot s then
        resolve (if rest.isEmpty then [] :: above done else above done) rest
      else if isSingleDot s then resolve (if rest.isEmpty then [] :: done else done) rest
      else resolve (percentEncode encodedInPath s :: done) rest := by
  cases done <;> rfl

section

variable {P : List Char → Prop} {n : Nat} {done : List (List Char)}

private theorem take_push {s : List Char} (hs : P s) (h : ∀ t ∈ done.take (done.length - n), P t) :
    ∀ t ∈ (s :: done).take ((s :: done).length - n), P t := by
  intro t ht
  by_cases hn : n ≤ done.length
  · rw [List.length_cons, Nat.succ_sub hn, List.take_succ_cons, List.mem_cons] at ht
    rcases ht with rfl | ht
    · exact hs
    · exact h t ht
  · rw [List.length_cons, Nat.sub_eq_zero_of_le (by omega)] at ht
    simp at ht

private theorem take_pop {s : List Char}
    (h : ∀ t ∈ (s :: done).take ((s :: done).length - n), P t) :
    ∀ t ∈ done.take (done.length - n), P t := by
  intro t ht
  by_cases hn : n ≤ done.length
  · rw [List.length_cons, Nat.succ_sub hn, List.take_succ_cons] at h
    exact h t (List.mem_cons_of_mem s ht)
  · rw [Nat.sub_eq_zero_of_le (by omega)] at ht
    simp at ht

/-- What stands at a depth that resolving starts from or below is never a segment from further
up. -/
theorem forall_mem_resolve (n : Nat) (done : List (List Char)) (hnil : P []) (parts : List (List Char))
    (hparts : ∀ part ∈ parts, isDoubleDot part = false → isSingleDot part = false →
      P (percentEncode encodedInPath part))
    (h : ∀ s ∈ done.take (done.length - n), P s) :
    ∀ s ∈ (resolve done parts).drop n, P s := by
  induction parts generalizing done with
  | nil =>
      rw [resolve_nil, List.drop_reverse]
      intro s hs
      exact h s (List.mem_reverse.mp hs)
  | cons part rest ih =>
      have hrest := fun q hq => hparts q (List.mem_cons_of_mem part hq)
      rw [resolve_cons]
      by_cases hdouble : isDoubleDot part = true
      · rw [if_pos hdouble]
        apply ih _ hrest
        have habove : ∀ s ∈ (above done).take ((above done).length - n), P s := by
          cases done with
          | nil => simp [above]
          | cons last before =>
              rw [above]
              split
              · exact h
              · exact take_pop h
        split
        · exact take_push hnil habove
        · exact habove
      · rw [if_neg hdouble]
        by_cases hsingle : isSingleDot part = true
        · rw [if_pos hsingle]
          apply ih _ hrest
          split
          · exact take_push hnil h
          · exact h
        · rw [if_neg hsingle]
          apply ih _ hrest
          exact take_push (hparts part List.mem_cons_self (by simpa using hdouble)
            (by simpa using hsingle)) h

end

theorem resolve_ne_nil {parts : List (List Char)} (hparts : parts ≠ []) (done : List (List Char)) :
    resolve done parts ≠ [] := by
  induction parts generalizing done with
  | nil => exact absurd rfl hparts
  | cons part rest ih =>
      cases rest with
      | nil =>
          rw [resolve_cons]
          split
          · simp [resolve_nil]
          · split <;> simp [resolve_nil]
      | cons next rest =>
          rw [resolve_cons]
          split
          · exact ih (by simp) _
          · split <;> exact ih (by simp) _

theorem percentEncode_eq_self {p : Char → Bool} {s : List Char} (h : ∀ c ∈ s, p c = false) :
    percentEncode p s = s := by
  induction s with
  | nil => rfl
  | cons c s ih =>
      rw [percentEncode_cons_of_not (h c List.mem_cons_self),
        ih fun d hd => h d (List.mem_cons_of_mem c hd)]

theorem resolve_append {parts : List (List Char)} (h : ∀ part ∈ parts, IsPlainSegment part)
    (done rest : List (List Char)) :
    resolve done (parts ++ rest) = resolve (parts.reverse ++ done) rest := by
  induction parts generalizing done with
  | nil => rfl
  | cons part parts ih =>
      have hpart := h part List.mem_cons_self
      have hself : percentEncode encodedInPath part = part :=
        percentEncode_eq_self fun c hc => (hpart.chars c hc).2
      rw [List.cons_append, resolve_cons, if_neg (by simp [hpart.notDouble]),
        if_neg (by simp [hpart.notSingle]), hself,
        ih fun q hq => h q (List.mem_cons_of_mem part hq)]
      simp

/-- Whatever stands in front, the segments behind it are resolved as they would be on their own, on
top of what is kept of it. -/
theorem exists_resolve_append (done parts rest : List (List Char)) :
    ∃ kept, resolve done (parts ++ rest) = resolve kept rest := by
  induction parts generalizing done with
  | nil => exact ⟨done, rfl⟩
  | cons part parts ih =>
      rw [List.cons_append, resolve_cons]
      split
      · exact ih _
      · split
        · exact ih _
        · exact ih _

theorem not_dot_of_mem_colon {s : List Char} (h : ':' ∈ s) :
    isDoubleDot s = false ∧ isSingleDot s = false := by
  have hlower : ':' ∈ s.map Char.toLower := List.mem_map.mpr ⟨':', h, by decide⟩
  have hne : ∀ t : List Char, ':' ∉ t → (s == t) = false ∧ (s.map Char.toLower == t) = false := by
    intro t ht
    constructor
    · rw [beq_eq_false_iff_ne]
      rintro rfl
      exact ht h
    · rw [beq_eq_false_iff_ne]
      intro heq
      exact ht (heq ▸ hlower)
  constructor
  · simp [isDoubleDot, hne]
  · simp [isSingleDot, hne]

/-! ## Reading a path -/

def slashed (parts : List (List Char)) : List Char :=
  parts.flatMap fun part => '/' :: part

theorem slashed_cons (part : List Char) (parts : List (List Char)) :
    slashed (part :: parts) = '/' :: (part ++ slashed parts) := by
  simp [slashed]

section

variable {parts : List (List Char)}

theorem slashed_chars (h : ∀ part ∈ parts, IsPlainSegment part) :
    ∀ c ∈ slashed parts, inPath c = true ∧ isBreak c = false := by
  intro c hc
  obtain ⟨part, hpart, hc⟩ := List.mem_flatMap.mp hc
  rcases List.mem_cons.mp hc with rfl | hc
  · decide
  · have hplain := ((h part hpart).chars c hc).2
    constructor
    · cases hin : inPath c with
      | true => rfl
      | false =>
          simp only [inPath, Bool.not_eq_false', Bool.or_eq_true, beq_iff_eq] at hin
          rcases hin with rfl | rfl <;> revert hplain <;> decide
    · cases hbreak : isBreak c with
      | false => rfl
      | true =>
          simp only [isBreak, Bool.or_eq_true, beq_iff_eq] at hbreak
          rcases hbreak with (rfl | rfl) | rfl <;> revert hplain <;> decide

theorem cleanEnd_slashed (h : ∀ part ∈ parts, IsPlainSegment part) (t : List Char) :
    cleanEnd (slashed parts ++ '/' :: t) = slashed parts ++ '/' :: cleanEnd t := by
  have hfilter : (slashed parts).filter (fun c => !isBreak c) = slashed parts := by
    apply List.filter_eq_self.mpr
    intro c hc
    simp [(slashed_chars h c hc).2]
  rw [cleanEnd_append_slash, hfilter]

theorem cleanEnd_slashed_eq (h : ∀ part ∈ parts, IsPlainSegment part) :
    cleanEnd (slashed parts) = slashed parts := by
  have hedge : ∀ c ∈ slashed parts, isEdge c = false := by
    intro c hc
    obtain ⟨part, hpart, hc⟩ := List.mem_flatMap.mp hc
    rcases List.mem_cons.mp hc with rfl | hc
    · decide
    · have hplain := ((h part hpart).chars c hc).2
      have hspace : c ≠ ' ' := by
        rintro rfl
        revert hplain
        decide
      have hval : c.toNat ≠ 0x20 := fun hval => hspace (Char.toNat_inj.mp hval)
      simp only [encodedInPath, encodedInFragment, encodedAlways, Bool.or_eq_false_iff,
        decide_eq_false_iff_not] at hplain
      simp only [isEdge, decide_eq_false_iff_not]
      omega
  unfold cleanEnd
  rw [dropEndWhile_eq_self fun c hc => hedge c (List.mem_of_getLast? hc)]
  apply List.filter_eq_self.mpr
  intro c hc
  simp [(slashed_chars h c hc).2]

theorem readPath_slash {c : Char} (hc : isSlash c = true) (s : List Char) :
    readPath true (c :: s) =
      (pathText (resolve [] (splitWhere isSlash (s.takeWhile inPath))), s.dropWhile inPath) := by
  have hslash : c = '/' ∨ c = '\\' := by simpa [isSlash] using hc
  have hin : (!(c == '?' || c == '#')) = true := by
    rcases hslash with rfl | rfl <;> rfl
  have htake : (c :: s).takeWhile (fun c => !(c == '?' || c == '#')) = c :: s.takeWhile inPath :=
    List.takeWhile_cons_of_pos hin
  have hdrop : (c :: s).dropWhile (fun c => !(c == '?' || c == '#')) = s.dropWhile inPath :=
    List.dropWhile_cons_of_pos hin
  unfold readPath
  simp only [htake, hdrop, true_and, if_pos hslash]
  rfl

theorem readPath_snd (s : List Char) : (readPath true s).2 = s.dropWhile inPath := by
  unfold readPath
  dsimp only
  split <;> rfl

theorem slashed_tail_inPath {part : List Char} (h : ∀ q ∈ part :: parts, IsPlainSegment q) :
    ∀ c ∈ part ++ slashed parts, inPath c = true := by
  intro c hc
  apply (slashed_chars h c _).1
  rw [slashed_cons]
  exact List.mem_cons_of_mem '/' hc

theorem splitWhere_slashed (h : ∀ part ∈ parts, IsPlainSegment part) :
    splitWhere isSlash (slashed parts) = [] :: parts :=
  splitWhere_flatMap_cons (by decide) parts fun part hpart c hc => ((h part hpart).chars c hc).1

theorem eq_of_slashed_eq {parts' : List (List Char)} (h : ∀ part ∈ parts, IsPlainSegment part)
    (h' : ∀ part ∈ parts', IsPlainSegment part) (heq : slashed parts = slashed parts') :
    parts = parts' := by
  have hcons : [] :: parts = [] :: parts' := by
    rw [← splitWhere_slashed h, heq, splitWhere_slashed h']
  exact (List.cons.inj hcons).2

theorem splitWhere_slashed_tail {part : List Char} (h : ∀ q ∈ part :: parts, IsPlainSegment q) :
    splitWhere isSlash (part ++ slashed parts) = part :: parts := by
  have hall := splitWhere_slashed h
  rw [slashed_cons, splitWhere_cons_sep _ (by decide)] at hall
  exact (List.cons.inj hall).2

/-- What becomes of a text behind segments that stand as they are. -/
theorem readPath_slashed (h : ∀ part ∈ parts, IsPlainSegment part) (hne : parts ≠ [])
    (t : List Char) :
    readPath true (slashed parts ++ '/' :: t) =
      (pathText (resolve parts.reverse (splitWhere isSlash (t.takeWhile inPath))),
        t.dropWhile inPath) := by
  obtain ⟨part, rest, rfl⟩ := List.exists_cons_of_ne_nil hne
  have hin := slashed_tail_inPath h
  rw [slashed_cons, List.cons_append, readPath_slash (by decide),
    List.takeWhile_append_of_pos hin, List.dropWhile_append_of_pos hin,
    List.takeWhile_cons_of_pos (by decide), List.dropWhile_cons_of_pos (by decide),
    splitWhere_append_cons (by decide), splitWhere_slashed_tail h, resolve_append h,
    List.append_nil]

theorem readPath_slashed_eq (h : ∀ part ∈ parts, IsPlainSegment part) (hne : parts ≠ []) :
    readPath true (slashed parts) = (String.ofList (slashed parts), []) := by
  obtain ⟨part, rest, rfl⟩ := List.exists_cons_of_ne_nil hne
  have htake : (part ++ slashed rest).takeWhile inPath = part ++ slashed rest :=
    List.takeWhile_eq_self_iff.mpr (slashed_tail_inPath h)
  have hdrop : (part ++ slashed rest).dropWhile inPath = [] :=
    List.dropWhile_eq_nil_iff.mpr (slashed_tail_inPath h)
  have hresolve : resolve [] (part :: rest) = part :: rest := by
    have hall := resolve_append h [] []
    rw [List.append_nil, List.append_nil, resolve_nil, List.reverse_reverse] at hall
    exact hall
  rw [slashed_cons, readPath_slash (by decide), htake, hdrop, splitWhere_slashed_tail h, hresolve]
  rfl

theorem locate_slashed_eq (h : ∀ part ∈ parts, IsPlainSegment part) (hne : parts ≠ [])
    (site : Url) :
    locate site true (slashed parts) =
      { site with path := String.ofList (slashed parts), query := none, fragment := none } := by
  unfold locate
  rw [readPath_slashed_eq h hne]
  rfl

end

theorem readQueryFragment_eq_none_iff (t : List Char) :
    readQueryFragment true (t.dropWhile inPath) = (none, none) ↔ t.dropWhile inPath = [] := by
  constructor
  · intro h
    cases hrest : t.dropWhile inPath with
    | nil => rfl
    | cons c rest =>
        have hc : inPath c = false := by
          have hhead := List.head?_dropWhile_not inPath t
          rw [hrest] at hhead
          simpa using hhead
        rw [hrest] at h
        simp only [inPath, Bool.not_eq_false', Bool.or_eq_true, beq_iff_eq] at hc
        rcases hc with rfl | rfl <;> simp [readQueryFragment] at h
  · intro h
    rw [h]
    rfl

theorem pathSegments_pathText {segments : List (List Char)} (hne : segments ≠ [])
    (h : ∀ s ∈ segments, ∀ c ∈ s, c ≠ '/') {u : Url} (hpath : u.path = pathText segments) :
    pathSegments u = segments := by
  have hsplit := splitWhere_flatMap_cons (p := (· == '/')) (c := '/') (by decide) segments
    fun s hs c hc => by simp [h s hs c hc]
  obtain ⟨first, rest, rfl⟩ := List.exists_cons_of_ne_nil hne
  unfold pathSegments splitOn pathText at *
  rw [hpath, String.toList_ofList]
  rw [List.flatMap_cons, List.cons_append, splitWhere_cons_sep _ (by decide)] at hsplit
  rw [List.flatMap_cons, List.cons_append, List.drop_one, List.tail_cons]
  exact (List.cons.inj hsplit).2

theorem slash_not_mem_percentEncode {p : Char → Bool} {s : List Char} (h : ∀ c ∈ s, c ≠ '/') :
    ∀ c ∈ percentEncode p s, c ≠ '/' := by
  have hdigit : ∀ n, upperHexDigit n ≠ '/' := by
    have hdigits : ∀ m < 16, upperHexDigit m ≠ '/' := by decide
    intro n
    have hmod : upperHexDigit n = upperHexDigit (n % 16) := by simp [upperHexDigit]
    rw [hmod]
    exact hdigits (n % 16) (Nat.mod_lt n (by omega))
  intro c hc
  obtain ⟨d, hd, hc⟩ := List.mem_flatMap.mp hc
  split at hc
  · obtain ⟨b, -, hc⟩ := List.mem_flatMap.mp hc
    simp only [percentByte, List.mem_cons, List.not_mem_nil, or_false] at hc
    rcases hc with rfl | rfl | rfl
    · decide
    · exact hdigit _
    · exact hdigit _
  · rw [List.mem_singleton.mp hc]
    exact h d hd

/-! ## A text behind plain segments -/

section

variable {parts : List (List Char)}

theorem pathSegments_slashed (h : ∀ part ∈ parts, IsPlainSegment part) (hne : parts ≠ [])
    (site : Url) (t : List Char) :
    pathSegments (locate site true (cleanEnd (slashed parts ++ '/' :: t))) =
      resolve parts.reverse (splitWhere isSlash ((cleanEnd t).takeWhile inPath)) := by
  have hread := readPath_slashed h hne (cleanEnd t)
  rw [cleanEnd_slashed h]
  apply pathSegments_pathText
  · exact resolve_ne_nil (splitWhere_ne_nil _) _
  · have hslash : ∀ s : List Char, (∀ c ∈ s, isSlash c = false) → ∀ c ∈ s, c ≠ '/' := by
      rintro s hs c hc rfl
      exact absurd (hs '/' hc) (by decide)
    rw [← List.drop_zero (l := resolve _ _)]
    apply forall_mem_resolve (P := fun s => ∀ c ∈ s, c ≠ '/') 0 parts.reverse (by simp)
    · intro part hpart _ _
      exact slash_not_mem_percentEncode (hslash part (not_sep_of_mem_splitWhere hpart))
    · intro s hs
      rw [Nat.sub_zero, List.take_length, List.mem_reverse] at hs
      exact hslash s fun c hc => ((h s hs).chars c hc).1
  · simp only [locate, hread]

theorem query_fragment_slashed (h : ∀ part ∈ parts, IsPlainSegment part) (hne : parts ≠ [])
    (site : Url) (t : List Char) :
    let u := locate site true (cleanEnd (slashed parts ++ '/' :: t))
    (u.query = none ∧ u.fragment = none) ↔ (cleanEnd t).dropWhile inPath = [] := by
  have hread := readPath_slashed h hne (cleanEnd t)
  rw [← readQueryFragment_eq_none_iff, cleanEnd_slashed h]
  simp only [locate, hread, Prod.ext_iff]

theorem cleanEnd_sublist (t : List Char) : (cleanEnd t).Sublist t :=
  List.filter_sublist.trans (dropEndWhile_sublist t)

theorem IsOneSegment.cleanEnd_eq {t : List Char} (ht : IsOneSegment t) : cleanEnd t = t := by
  unfold cleanEnd
  rw [dropEndWhile_eq_self ht.last]
  apply List.filter_eq_self.mpr
  intro c hc
  simp [(ht.chars c hc).2.2]

theorem IsOneSegment.pathSegments_eq {t : List Char} (ht : IsOneSegment t)
    (h : ∀ part ∈ parts, IsPlainSegment part) (hne : parts ≠ []) (site : Url) :
    pathSegments (locate site true (cleanEnd (slashed parts ++ '/' :: t))) =
      parts ++ [percentEncode encodedInPath t] := by
  have hin : t.takeWhile inPath = t :=
    List.takeWhile_eq_self_iff.mpr fun c hc => (ht.chars c hc).2.1
  rw [pathSegments_slashed h hne, ht.cleanEnd_eq, hin,
    splitWhere_eq_singleton fun c hc => (ht.chars c hc).1, resolve_cons,
    if_neg (by simp [ht.notDouble]), if_neg (by simp [ht.notSingle]), resolve_nil]
  simp

theorem IsOneSegment.percentDecode_eq {t : List Char} (ht : IsOneSegment t) :
    percentDecode (percentEncode encodedInPath t) = Utf8.encode t := by
  rw [percentDecode_percentEncode_inPath, percentDecode_eq_encode ht.noByte]

theorem last_segment_cases (h : ∀ part ∈ parts, IsPlainSegment part) (hne : parts ≠ [])
    {site : Url} {t seg : List Char}
    (hseg : pathSegments (locate site true (cleanEnd (slashed parts ++ '/' :: t))) =
      parts ++ [seg]) :
    seg = [] ∨ ∃ part ∈ splitWhere isSlash ((cleanEnd t).takeWhile inPath),
      isDoubleDot part = false ∧ isSingleDot part = false ∧
        seg = percentEncode encodedInPath part := by
  rw [pathSegments_slashed h hne] at hseg
  have hlast := forall_mem_resolve
    (P := fun s => s = [] ∨ ∃ part ∈ splitWhere isSlash ((cleanEnd t).takeWhile inPath),
      isDoubleDot part = false ∧ isSingleDot part = false ∧
        s = percentEncode encodedInPath part)
    parts.length parts.reverse (.inl rfl) (splitWhere isSlash ((cleanEnd t).takeWhile inPath))
    (fun part hpart hdouble hsingle => .inr ⟨part, hpart, hdouble, hsingle, rfl⟩) (by simp)
  rw [hseg, List.drop_left] at hlast
  exact hlast seg List.mem_cons_self

/-- A text that decodes to all of what it was taken from was not changed at all. Nothing of the
reading makes it longer: bytes are lost in trimming, splitting and decoding alike. -/
theorem isOneSegment_of_decodes {t part : List Char} (hquery : (cleanEnd t).dropWhile inPath = [])
    (hpart : part ∈ splitWhere isSlash ((cleanEnd t).takeWhile inPath))
    (hdouble : isDoubleDot part = false) (hsingle : isSingleDot part = false)
    (hdecode : percentDecode part = Utf8.encode t) : IsOneSegment t := by
  have hsub : part.Sublist t :=
    (sublist_of_mem_splitWhere hpart).trans
      ((List.takeWhile_sublist _).trans (cleanEnd_sublist t))
  have hle := percentDecode_length_le part
  rw [hdecode] at hle
  have hsame : part = t := Utf8.eq_of_sublist_of_encode_length_le hsub hle
  subst hsame
  have hclean : cleanEnd part = part := by
    have hback : part.Sublist (cleanEnd part) :=
      (sublist_of_mem_splitWhere hpart).trans (List.takeWhile_sublist _)
    exact (cleanEnd_sublist part).eq_of_length_le hback.length_le
  have hslash := not_sep_of_mem_splitWhere hpart
  rw [hclean, List.dropWhile_eq_nil_iff] at hquery
  refine ⟨?_, ?_, (percentDecode_eq_encode_iff part).mp hdecode, hdouble, hsingle⟩
  · intro c hc
    refine ⟨hslash c hc, hquery c hc, ?_⟩
    rw [← hclean] at hc
    simpa using (List.mem_filter.mp hc).2
  · have hback : part.Sublist (dropEndWhile isEdge part) := by
      have hfilter := List.filter_sublist (p := fun c => !isBreak c) (l := dropEndWhile isEdge part)
      rwa [show (dropEndWhile isEdge part).filter (fun c => !isBreak c) = part from hclean]
        at hfilter
    exact not_of_dropEndWhile_eq_self
      ((dropEndWhile_sublist part).eq_of_length_le hback.length_le)

/-- A text behind segments that stand as they are is one segment more and means itself exactly when
nothing in it has a meaning of its own. -/
theorem isOneSegment_iff (h : ∀ part ∈ parts, IsPlainSegment part) (hne : parts ≠ [])
    {site u : Url} {t : List Char}
    (hu : u = locate site true (cleanEnd (slashed parts ++ '/' :: t))) :
    (u.query = none ∧ u.fragment = none ∧
        ∃ seg, pathSegments u = parts ++ [seg] ∧ percentDecode seg = Utf8.encode t) ↔
      IsOneSegment t := by
  subst hu
  have hquery := query_fragment_slashed h hne site t
  constructor
  · rintro ⟨hnoQuery, hnoFragment, seg, hseg, hdecode⟩
    rcases last_segment_cases h hne hseg with rfl | ⟨part, hpart, hdouble, hsingle, rfl⟩
    · have hnil : t = [] := by
        cases t with
        | nil => rfl
        | cons c t =>
            have hpos := Utf8.encode_length_pos c
            rw [Utf8.encode_cons c t] at hdecode
            have hlength := congrArg List.length hdecode
            rw [List.length_append, percentDecode, List.length_nil] at hlength
            omega
      rw [hnil]
      decide
    · rw [percentDecode_percentEncode_inPath] at hdecode
      exact isOneSegment_of_decodes (hquery.mp ⟨hnoQuery, hnoFragment⟩) hpart hdouble hsingle
        hdecode
  · intro ht
    have hrest : (cleanEnd t).dropWhile inPath = [] := by
      rw [ht.cleanEnd_eq, List.dropWhile_eq_nil_iff]
      exact fun c hc => (ht.chars c hc).2.1
    obtain ⟨hnoQuery, hnoFragment⟩ := hquery.mpr hrest
    exact ⟨hnoQuery, hnoFragment, _, ht.pathSegments_eq h hne site, ht.percentDecode_eq⟩

end

end FlowConsole.Url
