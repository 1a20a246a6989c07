import FlowConsole.Proofs.Toml.Scalar
/-!
The statements of a document come back from its text.

A document is sections of entries, each entry on a line. The reader takes line by line what the
writer put there, whatever stands in the keys and strings.
-/
namespace FlowConsole.Toml

/-! ## Lines -/

def StartsLine (c : Char) : Prop := isBare c = true ∨ c = '"' ∨ c = '\'' ∨ c = '['

theorem StartsLine.ne {c d : Char} (h : StartsLine c) (hbare : isBare d = false)
    (hd : d ≠ '"' ∧ d ≠ '\'' ∧ d ≠ '[') : c ≠ d := by
  rintro rfl
  rcases h with h | h | h | h
  · rw [hbare] at h
    cases h
  · exact hd.1 h
  · exact hd.2.1 h
  · exact hd.2.2 h

theorem skipBlanks_cons {c : Char} (h : isBlank c = false) (s : List Char) :
    skipBlanks (c :: s) = c :: s := by
  rw [skipBlanks, List.dropWhile_cons, if_neg (by simp [h])]

theorem StartsLine.isBlank_eq_false {c : Char} (h : StartsLine c) : isBlank c = false := by
  have hspace : c ≠ ' ' := h.ne (by decide) (by decide)
  have htab : c ≠ '\t' := h.ne (by decide) (by decide)
  simp [isBlank, hspace, htab]

theorem skipGaps_line {c : Char} (h : StartsLine c) (fuel : Nat) (s : List Char) :
    skipGaps (fuel + 1) (c :: s) = some (c :: s) := by
  have hcomment : c ≠ '#' := h.ne (by decide) (by decide)
  have hnone : newline? (c :: s) = none :=
    newline?_eq_none (h.ne (by decide) (by decide)) (h.ne (by decide) (by decide)) s
  rw [skipGaps.eq_def]
  dsimp only
  rw [skipBlanks_cons h.isBlank_eq_false]
  split
  · rename_i heq
    exact absurd (List.cons.inj heq).1 hcomment
  · rw [hnone]

theorem endLine?_newline (rest : List Char) : endLine? ('\n' :: rest) = some rest := rfl

/-- A text that is read as statements. Each takes a unit of fuel and at least one character. -/
def Reads (s : List Char) (statements : List Statement) : Prop :=
  ∀ fuel, s.length < fuel → readStatements? fuel s = some statements

theorem reads_nil : Reads [] [] := by
  intro fuel hfuel
  obtain ⟨fuel, rfl⟩ := Nat.exists_eq_succ_of_ne_zero (Nat.ne_of_gt hfuel)
  rfl

theorem Reads.line {c : Char} {s rest : List Char} {statement : Statement}
    {statements : List Statement} (h : Reads rest statements) (hstart : StartsLine c)
    (hread : readStatement? (c :: s) = some (statement, '\n' :: rest))
    (hlength : rest.length ≤ s.length) : Reads (c :: s) (statement :: statements) := by
  intro fuel hfuel
  rw [List.length_cons] at hfuel
  obtain ⟨fuel, rfl⟩ : ∃ n, fuel = n + 1 := ⟨fuel - 1, by omega⟩
  rw [readStatements?, skipGaps_line hstart]
  simp [hread, endLine?_newline, h fuel (by omega)]

theorem Reads.blank {s : List Char} {statements : List Statement} (h : Reads s statements) :
    Reads ('\n' :: s) statements := by
  intro fuel hfuel
  rw [List.length_cons] at hfuel
  obtain ⟨fuel, rfl⟩ : ∃ n, fuel = n + 1 := ⟨fuel - 1, by omega⟩
  have hread := h (fuel + 1) (by omega)
  rw [readStatements?] at hread ⊢
  exact hread

/-! ## Keys -/

def keysText (keys : List String) : List Char :=
  ['.'].intercalate (keys.map fun key => keyText key.toList)

theorem startsLine_keyText (s : List Char) : ∃ c t, keyText s = c :: t ∧ StartsLine c ∧ c ≠ '[' := by
  obtain ⟨c, t, ht, hc⟩ := keyText_head (s := s)
  refine ⟨c, t, ht, ?_, ?_⟩
  · rcases hc with hc | hc | hc
    · exact .inl hc
    · exact .inr (.inl hc)
    · exact .inr (.inr (.inl hc))
  · rintro rfl
    simp [isBare] at hc

theorem startsLine_keysText (key : String) (keys : List String) :
    ∃ c t, keysText (key :: keys) = c :: t ∧ StartsLine c ∧ c ≠ '[' := by
  obtain ⟨c, t, ht, hc⟩ := startsLine_keyText key.toList
  cases keys with
  | nil => exact ⟨c, t, by simp [keysText, ht], hc⟩
  | cons next keys =>
      exact ⟨c, t ++ '.' :: keysText (next :: keys), by
        simp [keysText, List.intercalate_cons_cons, ht], hc⟩

theorem skipBlanks_keyText (s rest : List Char) : skipBlanks (keyText s ++ rest) = keyText s ++ rest := by
  obtain ⟨c, t, ht, hc, -⟩ := startsLine_keyText s
  rw [ht]
  exact skipBlanks_cons hc.isBlank_eq_false _

theorem readKeyParts?_keysText {key : String} {keys : List String} {depth : Nat}
    (hdepth : keys.length < depth) {rest : List Char} (hends : EndsKey rest)
    (hpoint : (skipBlanks rest).head? ≠ some '.') :
    readKeyParts? depth (keysText (key :: keys) ++ rest) = some (key :: keys, skipBlanks rest) := by
  induction keys generalizing key depth with
  | nil =>
      obtain ⟨depth, rfl⟩ := Nat.exists_eq_succ_of_ne_zero (Nat.ne_of_gt hdepth)
      have htext : keysText [key] = keyText key.toList := by simp [keysText]
      rw [htext, readKeyParts?, skipBlanks_keyText, readSimpleKey?_keyText hends]
      simp only [Option.bind_eq_bind, Option.bind_some, String.ofList_toList]
      split
      · rename_i heq
        exact absurd (congrArg List.head? heq) hpoint
      · rfl
  | cons next keys ih =>
      rw [List.length_cons] at hdepth
      obtain ⟨depth, rfl⟩ : ∃ n, depth = n + 1 := ⟨depth - 1, by omega⟩
      have htext : keysText (key :: next :: keys) ++ rest =
          keyText key.toList ++ '.' :: (keysText (next :: keys) ++ rest) := by
        simp [keysText, List.intercalate_cons_cons]
      have hread : readKeyParts? depth (keysText (next :: keys) ++ rest) =
          some (next :: keys, skipBlanks rest) := ih (by omega)
      rw [htext, readKeyParts?, skipBlanks_keyText,
        readSimpleKey?_keyText (endsKey_cons (by decide) (by decide) (by decide) _)]
      simp only [Option.bind_eq_bind, Option.bind_some, String.ofList_toList,
        skipBlanks_cons (c := '.') (by decide), hread]

theorem readKey?_keysText {path : List String} (hdepth : path.length < depthLimit) (key : String)
    {rest : List Char} (hends : EndsKey rest) (hpoint : (skipBlanks rest).head? ≠ some '.') :
    readKey? (keysText (path ++ [key]) ++ rest) = some (path, key, skipBlanks rest) := by
  obtain ⟨first, keys, hkeys⟩ := List.exists_cons_of_ne_nil (l := path ++ [key]) (by simp)
  have hlength : keys.length < depthLimit := by
    have hsame := congrArg List.length hkeys
    simp only [List.length_append, List.length_cons, List.length_nil] at hsame
    omega
  have hread : readKeyParts? depthLimit (keysText (first :: keys) ++ rest) =
      some (first :: keys, skipBlanks rest) := readKeyParts?_keysText hlength hends hpoint
  rw [← hkeys] at hread
  unfold readKey?
  rw [hread]
  simp

/-! ## Statements -/

theorem text_head (v : Simple) :
    ∃ c t, v.text.toList = c :: t ∧ isBlank c = false ∧ c ≠ '[' ∧ c ≠ '\x7b' := by
  cases v with
  | string s =>
      obtain ⟨c, t, ht, hc⟩ := stringText_head s.toList
      refine ⟨c, t, by rw [Simple.text, String.toList_ofList, ht], ?_⟩
      rcases hc with rfl | rfl <;> decide
  | natural n =>
      obtain ⟨c, t, ht, hc⟩ := toDigits_head n
      refine ⟨c, t, by simp [Simple.text, toString, Nat.repr, ht], ?_, ?_⟩
      · simp [isBlank, ne_of_isDigit hc]
      · exact ⟨ne_of_isDigit hc (by decide), ne_of_isDigit hc (by decide)⟩
  | boolean b => cases b <;> exact ⟨_, _, rfl, by decide⟩

theorem readValue?_scalar {c : Char} (hbracket : c ≠ '[') (hbrace : c ≠ '\x7b') (fuel depth : Nat)
    (s : List Char) : readValue? (fuel + 1) depth (c :: s) = readScalar? (c :: s) := by
  rw [readValue?.eq_def]
  dsimp only
  split
  · rename_i heq
    exact absurd (List.cons.inj heq).1 hbracket
  · rename_i heq
    exact absurd (List.cons.inj heq).1 hbrace
  · rfl

theorem skipBlanks_space (s : List Char) : skipBlanks (' ' :: s) = skipBlanks s := rfl

theorem readValue?_simple {v : Simple} (hv : v.Fits) (fuel depth : Nat) (rest : List Char) :
    readValue? (fuel + 1) depth (v.text.toList ++ '\n' :: rest) = some (v.toValue, '\n' :: rest) := by
  have hread := readScalar?_simple hv rest
  obtain ⟨c, t, ht, -, hbracket, hbrace⟩ := text_head v
  rw [ht, List.cons_append] at hread ⊢
  rw [readValue?_scalar hbracket hbrace, hread]

theorem skipBlanks_text (v : Simple) (rest : List Char) :
    skipBlanks (v.text.toList ++ rest) = v.text.toList ++ rest := by
  obtain ⟨c, t, ht, hblank, -⟩ := text_head v
  rw [ht]
  exact skipBlanks_cons hblank _

theorem reads_entry {v : Simple} (hv : v.Fits) (key : String) {rest : List Char}
    {statements : List Statement} (h : Reads rest statements) :
    Reads ((entryLine key v).toList ++ rest) (.entry [] key v.toValue :: statements) := by
  have htext : (entryLine key v).toList ++ rest =
      keysText ([] ++ [key]) ++ ' ' :: '=' :: ' ' :: (v.text.toList ++ '\n' :: rest) := by
    simp [entryLine, toString, keysText]
  have hdepth : ([] : List String).length < depthLimit := by decide
  have hends : EndsKey (' ' :: '=' :: ' ' :: (v.text.toList ++ '\n' :: rest)) :=
    endsKey_cons (by decide) (by decide) (by decide) _
  have hkey := readKey?_keysText hdepth key hends
    (by rw [skipBlanks_space, skipBlanks_cons (by decide)]; simp)
  obtain ⟨c, t, ht, hc, hbracket⟩ := startsLine_keyText key.toList
  have hcons : keysText ([] ++ [key]) = c :: t := by simp [keysText, ht]
  rw [htext]
  rw [hcons, List.cons_append] at hkey ⊢
  refine h.line hc ?_ (by simp; omega)
  unfold readStatement?
  split
  · rename_i heq
    exact absurd (List.cons.inj heq).1 hbracket
  · rename_i heq
    exact absurd (List.cons.inj heq).1 hbracket
  · rw [hkey, skipBlanks_space, skipBlanks_cons (by decide)]
    simp only [Option.bind_eq_bind, Option.bind_some, skipBlanks_space, skipBlanks_text,
      readValue?_simple hv]

theorem reads_header {path : List String} (hdepth : path.length < depthLimit) (key : String)
    {rest : List Char} {statements : List Statement} (h : Reads rest statements) :
    Reads ('[' :: (keysText (path ++ [key]) ++ ']' :: '\n' :: rest))
      (.header path key :: statements) := by
  have hends : EndsKey (']' :: '\n' :: rest) :=
    endsKey_cons (by decide) (by decide) (by decide) _
  have hkey := readKey?_keysText hdepth key hends (by rw [skipBlanks_cons (by decide)]; simp)
  rw [skipBlanks_cons (by decide)] at hkey
  refine h.line (.inr (.inr (.inr rfl))) ?_ (by simp; omega)
  unfold readStatement?
  split
  · rename_i heq
    obtain ⟨first, keys, hkeys⟩ := List.exists_cons_of_ne_nil (l := path ++ [key]) (by simp)
    obtain ⟨c, t, ht, -, hbracket⟩ := startsLine_keysText first keys
    rw [hkeys, ht] at heq
    exact absurd (List.cons.inj (List.cons.inj heq).2).1 hbracket
  · rename_i heq
    rw [← (List.cons.inj heq).2, hkey]
    rfl
  · rename_i hnot
    exact absurd rfl (hnot _)

/-! ## Sections -/

def Section.statements (s : Section) : List Statement :=
  (s.path.getLast?.map (Statement.header s.path.dropLast)).toList ++
    s.entries.map fun e => .entry [] e.1 e.2.toValue

structure Section.Fits (s : Section) : Prop where
  depth : s.path.length ≤ depthLimit
  values : ∀ e ∈ s.entries, e.2.Fits

theorem reads_entries {entries : List (String × Simple)} (hvalues : ∀ e ∈ entries, e.2.Fits)
    {rest : List Char} {statements : List Statement} (h : Reads rest statements) :
    Reads ((String.join (entries.map fun e => entryLine e.1 e.2)).toList ++ rest)
      (entries.map (fun e => .entry [] e.1 e.2.toValue) ++ statements) := by
  induction entries with
  | nil => exact h
  | cons e entries ih =>
      have hrest := ih fun e he => hvalues e (List.mem_cons_of_mem _ he)
      have hentry := reads_entry (hvalues e List.mem_cons_self) e.1 hrest
      simpa [String.toList_join] using hentry

theorem reads_section {s : Section} (hs : s.Fits) {rest : List Char} {statements : List Statement}
    (h : Reads rest statements) : Reads (s.text.toList ++ rest) (s.statements ++ statements) := by
  obtain ⟨path, entries⟩ := s
  have hentries := reads_entries hs.values h
  rcases List.eq_nil_or_concat path with rfl | ⟨front, key, rfl⟩
  · simpa [Section.text, Section.statements] using hentries
  · have hdepth : front.length < depthLimit := by
      have hlength := hs.depth
      rw [List.length_concat] at hlength
      exact hlength
    have hname : (".".intercalate ((front ++ [key]).map fun key =>
        String.ofList (keyText key.toList))).toList = keysText (front ++ [key]) := by
      rw [String.toList_intercalate]
      simp [keysText, Function.comp_def]
    have htext : (Section.text ⟨front ++ [key], entries⟩).toList =
        '[' :: (keysText (front ++ [key]) ++ [']', '\n'] ++
          (String.join (entries.map fun e => entryLine e.1 e.2)).toList) := by
      rw [← hname]
      simp [Section.text, toString]
    rw [List.concat_eq_append, htext]
    simpa [Section.statements] using reads_header hdepth key hentries

theorem Section.statements_eq_nil {s : Section} (hs : s.Fits) (htext : s.text.isEmpty = true) :
    s.statements = [] := by
  have hempty : s.text.toList ++ [] = [] := by simpa using htext
  have hread := reads_section hs reads_nil 1 (by rw [hempty]; decide)
  rw [hempty, reads_nil 1 (by decide)] at hread
  simpa using (Option.some.inj hread).symm

theorem reads_sections {sections : List Section} (h : ∀ s ∈ sections, s.Fits) :
    Reads ("\n".intercalate (sections.map Section.text)).toList
      (sections.flatMap Section.statements) := by
  rw [String.toList_intercalate]
  induction sections with
  | nil => exact reads_nil
  | cons s rest ih =>
      have hs := h s List.mem_cons_self
      have hrest := ih fun s hs => h s (List.mem_cons_of_mem _ hs)
      cases rest with
      | nil => simpa using reads_section hs reads_nil
      | cons next rest =>
          have hall := reads_section hs hrest.blank
          simpa [List.intercalate_cons_cons] using hall

theorem reads_documentText {sections : List Section} (h : ∀ s ∈ sections, s.Fits) :
    Reads (documentText sections).toList (sections.flatMap Section.statements) := by
  have hfits : ∀ s ∈ sections.filter fun s => !s.text.isEmpty, s.Fits :=
    fun s hs => h s (List.mem_filter.mp hs).1
  have hkept := reads_sections hfits
  have hdropped : (sections.filter fun s => !s.text.isEmpty).flatMap Section.statements =
      sections.flatMap Section.statements := by
    clear hkept hfits
    induction sections with
    | nil => rfl
    | cons s rest ih =>
        have hrest := ih fun s hs => h s (List.mem_cons_of_mem _ hs)
        cases hempty : s.text.isEmpty with
        | false => simp [hempty, hrest]
        | true =>
            have hnone := Section.statements_eq_nil (h s List.mem_cons_self) hempty
            simp [hempty, hrest, hnone]
  rw [hdropped] at hkept
  unfold documentText
  rw [List.filter_map]
  exact hkept

theorem parse?_documentText {sections : List Section} (h : ∀ s ∈ sections, s.Fits) :
    parse? (documentText sections) =
      (build? [] [] (sections.flatMap Section.statements)).map entriesToValues := by
  have hread := reads_documentText h ((documentText sections).toList.length + 1) (Nat.lt_succ_self _)
  have hmark : ∀ rest, (documentText sections).toList ≠ '\uFEFF' :: rest := by
    intro rest heq
    rw [heq] at hread
    cases hread
  unfold parse?
  split
  · rename_i rest heq
    exact absurd heq (hmark rest)
  · dsimp only
    rw [hread, Option.bind_eq_bind, Option.bind_some]
    cases build? [] [] (sections.flatMap Section.statements) <;> rfl

end FlowConsole.Toml
