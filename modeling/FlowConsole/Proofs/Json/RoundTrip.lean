import FlowConsole.Proofs.Json.Canonical
import FlowConsole.Proofs.Json.Scalar
/-!
Values come back from their text.

Both printers put the same pieces together, with blanks of their own between them. For each piece it
is shown once how it is read, for any blanks. What comes back is the canonical value, as long as
every number is an integer of 64 bits and no bracket nests deeper than the reader allows.
-/
namespace FlowConsole.Json

/-! ## Blanks -/

def IsBlank (s : List Char) : Prop := ∀ c ∈ s, isSpace c = true

theorem isBlank_nil : IsBlank [] := by simp [IsBlank]

theorem isBlank_newline (depth : Nat) : IsBlank (Value.newline depth) := by
  intro c hc
  rw [Value.newline, List.mem_cons, List.mem_replicate] at hc
  rcases hc with rfl | ⟨-, rfl⟩
  · rfl
  · rfl

theorem skipSpace_blank {blank : List Char} (h : IsBlank blank) (s : List Char) :
    skipSpace (blank ++ s) = skipSpace s := by
  induction blank with
  | nil => rfl
  | cons c blank ih =>
      have hc : isSpace c = true := h c List.mem_cons_self
      rw [List.cons_append, skipSpace, List.dropWhile_cons, if_pos hc]
      exact ih fun d hd => h d (List.mem_cons_of_mem c hd)

theorem skipSpace_cons {c : Char} (h : isSpace c = false) (s : List Char) :
    skipSpace (c :: s) = c :: s := by
  rw [skipSpace, List.dropWhile_cons, if_neg (by simp [h])]

theorem skipSpace_blank_cons {blank : List Char} (hblank : IsBlank blank) {c : Char}
    (hc : isSpace c = false) (s : List Char) : skipSpace (blank ++ c :: s) = c :: s := by
  rw [skipSpace_blank hblank, skipSpace_cons hc]

theorem endsNumber_blank {blank : List Char} (hblank : IsBlank blank) {s : List Char}
    (hs : EndsNumber s) : EndsNumber (blank ++ s) := by
  cases blank with
  | nil => exact hs
  | cons c blank =>
      have hc : isSpace c = true := hblank c List.mem_cons_self
      simp only [isSpace, Bool.or_eq_true, beq_iff_eq] at hc
      rcases hc with ((rfl | rfl) | rfl) | rfl
      all_goals exact endsNumber_cons (by decide) (by decide) (by decide) (by decide) _

/-! ## How the pieces are read -/

/-- A text that is read as a value, whatever follows that is not more of a number. It needs no more
fuel than it has characters. -/
structure Reads (text : List Char) (v : Value) (nesting : Nat) : Prop where
  starts : ∃ c rest, text = c :: rest ∧ isSpace c = false ∧ c ≠ ']'
  read : ∀ (fuel : Nat) {depth : Nat} {rest : List Char}, text.length ≤ fuel → nesting < depth →
    EndsNumber rest → readValue fuel depth (text ++ rest) = .ok (v, rest)

structure ReadsItems (text : List Char) (items : List Value) (nesting : Nat) : Prop where
  starts : ∃ c rest, text = c :: rest ∧ isSpace c = false ∧ c ≠ ']'
  read : ∀ (fuel depth : Nat) (seen : List Value) (rest : List Char), text.length ≤ fuel →
    nesting < depth →
      readItems fuel depth seen (text ++ rest) = .ok (.array (seen.reverse ++ items), rest)

/-- A text that is read, after the quote of its first key, as the members of an object. -/
def ReadsMembers (text : List Char) (members : List (String × Value)) (nesting : Nat) : Prop :=
  ∀ (fuel depth : Nat) (seen : List (String × Value)) (rest : List Char), text.length ≤ fuel →
    nesting < depth →
      readMembers fuel depth seen (text ++ rest) =
        .ok (.object (members.foldl (fun acc m => Entries.insert m.1 m.2 acc) seen), rest)

section

variable {text more blank blank' : List Char} {v : Value} {nesting : Nat}

/-- One unit of fuel is spent on the first character. -/
theorem Reads.of_cons {c : Char} (hspace : isSpace c = false) (hbracket : c ≠ ']')
    (hread : ∀ (fuel depth : Nat) (rest : List Char), text.length ≤ fuel → nesting < depth →
      EndsNumber rest → readValue (fuel + 1) depth (c :: (text ++ rest)) = .ok (v, rest)) :
    Reads (c :: text) v nesting := by
  refine ⟨⟨c, text, rfl, hspace, hbracket⟩, ?_⟩
  intro fuel depth rest hfuel hdepth hrest
  rw [List.length_cons] at hfuel
  obtain ⟨fuel, rfl⟩ : ∃ n, fuel = n + 1 := ⟨fuel - 1, by omega⟩
  exact hread fuel depth rest (by omega) hdepth hrest

theorem Reads.mono (h : Reads text v nesting) {nesting' : Nat} (hle : nesting ≤ nesting') :
    Reads text v nesting' :=
  ⟨h.starts, fun fuel _ _ hfuel hdepth hrest =>
    h.read fuel hfuel (Nat.lt_of_le_of_lt hle hdepth) hrest⟩

theorem Reads.length_pos (h : Reads text v nesting) : 0 < text.length := by
  obtain ⟨c, rest, rfl, -, -⟩ := h.starts
  simp

theorem Reads.read_blank (h : Reads text v nesting) (hblank : IsBlank blank) (fuel : Nat)
    {depth : Nat} {rest : List Char} (hfuel : text.length ≤ fuel) (hdepth : nesting < depth)
    (hrest : EndsNumber rest) : readValue fuel depth (blank ++ (text ++ rest)) = .ok (v, rest) := by
  have hpos := h.length_pos
  have hread := h.read fuel hfuel hdepth hrest
  obtain ⟨fuel, rfl⟩ : ∃ n, fuel = n + 1 := ⟨fuel - 1, by omega⟩
  rw [readValue] at hread ⊢
  rw [skipSpace_blank hblank, hread]

/-! ### Arrays -/

theorem readsItems_last (h : Reads text v nesting) (hblank : IsBlank blank) :
    ReadsItems (text ++ (blank ++ [']'])) [v] nesting := by
  refine ⟨?_, ?_⟩
  · obtain ⟨c, rest, rfl, hc⟩ := h.starts
    exact ⟨c, rest ++ (blank ++ [']']), rfl, hc⟩
  · intro fuel depth seen rest hfuel hdepth
    rw [List.length_append, List.length_append, List.length_singleton] at hfuel
    obtain ⟨fuel, rfl⟩ : ∃ n, fuel = n + 1 := ⟨fuel - 1, by omega⟩
    have hends : EndsNumber (blank ++ ']' :: rest) := endsNumber_blank hblank
      (endsNumber_cons (by decide) (by decide) (by decide) (by decide) rest)
    have hvalue := h.read fuel (by omega) hdepth hends
    simp only [List.append_assoc, List.singleton_append]
    rw [readItems, hvalue]
    simp only [skipSpace_blank_cons hblank (c := ']') (by decide), List.reverse_cons]

theorem readsItems_next {items : List Value} (h : Reads text v nesting)
    (hmore : ReadsItems more items nesting) (hblank : IsBlank blank) :
    ReadsItems (text ++ ',' :: (blank ++ more)) (v :: items) nesting := by
  refine ⟨?_, ?_⟩
  · obtain ⟨c, rest, rfl, hc⟩ := h.starts
    exact ⟨c, rest ++ ',' :: (blank ++ more), rfl, hc⟩
  · intro fuel depth seen rest hfuel hdepth
    rw [List.length_append, List.length_cons, List.length_append] at hfuel
    obtain ⟨fuel, rfl⟩ : ∃ n, fuel = n + 1 := ⟨fuel - 1, by omega⟩
    have hends : EndsNumber (',' :: (blank ++ (more ++ rest))) :=
      endsNumber_cons (by decide) (by decide) (by decide) (by decide) _
    have hvalue := h.read fuel (by omega) hdepth hends
    have hrest := hmore.read fuel depth (v :: seen) rest (by omega) hdepth
    obtain ⟨c, tail, rfl, hspace, hbracket⟩ := hmore.starts
    simp only [List.append_assoc, List.cons_append] at hvalue hrest ⊢
    rw [readItems, hvalue]
    simp only [skipSpace_cons (c := ',') (by decide), skipSpace_blank_cons hblank hspace]
    split
    · contradiction
    · rename_i heq
      exact absurd (List.cons.inj heq).1 hbracket
    · rw [hrest, List.reverse_cons, List.append_assoc, List.singleton_append]

theorem reads_emptyArray : Reads ['[', ']'] (.array []) 1 := by
  refine Reads.of_cons (by decide) (by decide) ?_
  intro fuel depth rest _ hdepth _
  simp only [List.cons_append, List.nil_append]
  rw [readValue, skipSpace_cons (by decide)]
  simp only [skipSpace_cons (c := ']') (by decide)]
  rw [if_neg (by omega)]

theorem reads_array {items : List Value} (h : ReadsItems text items nesting)
    (hblank : IsBlank blank) : Reads ('[' :: (blank ++ text)) (.array items) (nesting + 1) := by
  refine Reads.of_cons (by decide) (by decide) ?_
  intro fuel depth rest hfuel hdepth _
  rw [List.length_append] at hfuel
  have hread := h.read fuel (depth - 1) [] rest (by omega) (by omega)
  obtain ⟨c, tail, rfl, hspace, hbracket⟩ := h.starts
  simp only [List.append_assoc, List.cons_append] at hread ⊢
  rw [readValue, skipSpace_cons (by decide)]
  simp only
  rw [if_neg (by omega), skipSpace_blank_cons hblank hspace]
  split
  · rename_i heq
    exact absurd (List.cons.inj heq).1 hbracket
  · contradiction
  · exact hread

/-! ### Objects -/

theorem readColon_cons (s : List Char) : readColon (':' :: s) = .ok s := by
  unfold readColon
  simp only [skipSpace_cons (c := ':') (by decide)]

theorem readsMembers_last (h : Reads text v nesting) (hblank : IsBlank blank)
    (hblank' : IsBlank blank') (key : String) :
    ReadsMembers (key.toList.flatMap escapeChar ++
      '"' :: ':' :: (blank ++ (text ++ (blank' ++ ['\x7d'])))) [(key, v)] nesting := by
  intro fuel depth seen rest hfuel hdepth
  simp only [List.length_append, List.length_cons] at hfuel
  obtain ⟨fuel, rfl⟩ : ∃ n, fuel = n + 1 := ⟨fuel - 1, by omega⟩
  have hends : EndsNumber (blank' ++ '\x7d' :: rest) := endsNumber_blank hblank'
    (endsNumber_cons (by decide) (by decide) (by decide) (by decide) rest)
  have hvalue := h.read_blank hblank fuel (by omega) hdepth hends
  simp only [List.append_assoc, List.cons_append, List.nil_append]
  rw [readMembers, readString_quoted]
  simp only [readColon_cons, hvalue, skipSpace_blank_cons hblank' (c := '\x7d') (by decide)]
  rfl

theorem readsMembers_next {members : List (String × Value)} (h : Reads text v nesting)
    (hmore : ReadsMembers more members nesting) (hblank : IsBlank blank)
    (hblank' : IsBlank blank') (key : String) :
    ReadsMembers (key.toList.flatMap escapeChar ++
      '"' :: ':' :: (blank ++ (text ++ ',' :: (blank' ++ '"' :: more)))) ((key, v) :: members)
      nesting := by
  intro fuel depth seen rest hfuel hdepth
  simp only [List.length_append, List.length_cons] at hfuel
  obtain ⟨fuel, rfl⟩ : ∃ n, fuel = n + 1 := ⟨fuel - 1, by omega⟩
  have hends : EndsNumber (',' :: (blank' ++ '"' :: (more ++ rest))) :=
    endsNumber_cons (by decide) (by decide) (by decide) (by decide) _
  have hvalue := h.read_blank hblank fuel (by omega) hdepth hends
  have hrest := hmore fuel depth (Entries.insert key v seen) rest (by omega) hdepth
  simp only [List.append_assoc, List.cons_append]
  rw [readMembers, readString_quoted]
  simp only [readColon_cons, hvalue, skipSpace_cons (c := ',') (by decide),
    skipSpace_blank_cons hblank' (c := '"') (by decide), hrest, List.foldl_cons]

theorem reads_emptyObject : Reads ['\x7b', '\x7d'] (.object []) 1 := by
  refine Reads.of_cons (by decide) (by decide) ?_
  intro fuel depth rest _ hdepth _
  simp only [List.cons_append, List.nil_append]
  rw [readValue, skipSpace_cons (by decide)]
  simp only [skipSpace_cons (c := '\x7d') (by decide)]
  rw [if_neg (by omega)]

theorem reads_object {members : List (String × Value)} (h : ReadsMembers text members nesting)
    (hblank : IsBlank blank) :
    Reads ('\x7b' :: (blank ++ '"' :: text)) (.ofMembers members) (nesting + 1) := by
  refine Reads.of_cons (by decide) (by decide) ?_
  intro fuel depth rest hfuel hdepth _
  rw [List.length_append, List.length_cons] at hfuel
  have hread := h fuel (depth - 1) [] rest (by omega) (by omega)
  simp only [List.append_assoc, List.cons_append]
  rw [readValue, skipSpace_cons (by decide)]
  simp only [skipSpace_blank_cons hblank (c := '"') (by decide)]
  rw [if_neg (by omega), hread]
  rfl

end

/-! ### Scalars -/

theorem reads_null : Reads nullText .null 0 :=
  Reads.of_cons (by decide) (by decide) fun _ _ _ _ _ _ => rfl

theorem reads_bool (b : Bool) : Reads (boolText b) (.bool b) 0 := by
  cases b with
  | false => exact Reads.of_cons (by decide) (by decide) fun _ _ _ _ _ _ => rfl
  | true => exact Reads.of_cons (by decide) (by decide) fun _ _ _ _ _ _ => rfl

theorem reads_string (s : String) : Reads (quoted s) (.string s) 0 := by
  refine Reads.of_cons (by decide) (by decide) ?_
  intro fuel depth rest _ _ _
  simp only [List.append_assoc, List.cons_append, List.nil_append]
  rw [readValue, skipSpace_cons (by decide)]
  simp only [readString_quoted, Except.map]

theorem isSpace_of_isDigit {d : Char} (hd : d.isDigit = true) : isSpace d = false := by
  cases hs : isSpace d with
  | false => rfl
  | true =>
      simp only [isSpace, Bool.or_eq_true, beq_iff_eq] at hs
      rcases hs with ((rfl | rfl) | rfl) | rfl
      all_goals exact absurd hd (by decide)

theorem readValue_digit {d : Char} (hd : d.isDigit = true) (fuel depth : Nat) (s : List Char) :
    readValue (fuel + 1) depth (d :: s) =
      (readUnsigned false (d :: s)).map fun r => (.number r.1, r.2) := by
  rw [readValue, skipSpace_cons (isSpace_of_isDigit hd)]
  split
  case h_9 c rest _ _ _ _ _ _ _ heq =>
    obtain ⟨rfl, rfl⟩ := List.cons.inj heq
    rw [if_pos hd]
  case h_1 => contradiction
  all_goals
    rename_i heq
    obtain ⟨rfl, -⟩ := List.cons.inj heq
    exact absurd hd (by decide)

theorem reads_natural {n : Nat} (hn : n < 0x10000000000000000) :
    Reads (Nat.toDigits 10 n) (.number (.integer n)) 0 := by
  have hread : ∀ rest, EndsNumber rest →
      readUnsigned false (Nat.toDigits 10 n ++ rest) = .ok (.integer n, rest) := by
    intro rest hrest
    rw [readUnsigned_toDigits false hn hrest, readNumberEnd_natural n hrest]
  have hdigits : ∀ c ∈ Nat.toDigits 10 n, c.isDigit = true :=
    fun c hc => Nat.isDigit_of_mem_toDigits (by omega) (by omega) hc
  obtain ⟨d, ds, hd⟩ := List.exists_cons_of_ne_nil (Nat.toDigits_ne_nil (n := n) (b := 10))
  rw [hd] at hread hdigits ⊢
  have hfirst := hdigits d List.mem_cons_self
  refine Reads.of_cons (isSpace_of_isDigit hfirst) ?_ ?_
  · rintro rfl
    exact absurd hfirst (by decide)
  · intro fuel depth rest _ _ hrest
    rw [readValue_digit hfirst, ← List.cons_append, hread rest hrest]
    rfl

theorem reads_negative {n : Nat} (hpos : 0 < n) (hn : n ≤ 0x8000000000000000) :
    Reads ('-' :: Nat.toDigits 10 n) (.number (.integer (-n))) 0 := by
  refine Reads.of_cons (by decide) (by decide) ?_
  intro fuel depth rest _ _ hrest
  rw [readValue, skipSpace_cons (by decide)]
  simp only [readUnsigned_toDigits true (show n < 0x10000000000000000 by omega) hrest,
    readNumberEnd_negative hpos hn hrest, Except.map]

theorem reads_integer {n : Int} (h : (Number.integer n).isInteger64 = true) :
    Reads (Number.integerText n) (.number (.integer n)) 0 := by
  simp only [Number.isInteger64, Bool.and_eq_true, decide_eq_true_eq] at h
  unfold Number.integerText
  by_cases hneg : n < 0
  · have hread := reads_negative (n := n.natAbs) (by omega) (by omega)
    have hvalue : -(n.natAbs : Int) = n := by omega
    rwa [if_pos hneg, ← hvalue, Int.natAbs_neg, Int.natAbs_natCast]
  · have hread := reads_natural (n := n.natAbs) (by omega)
    have hvalue : (n.natAbs : Int) = n := by omega
    rwa [if_neg hneg, ← hvalue, Int.natAbs_natCast]

/-- Minus zero has a point in its text, and comes back with its sign. -/
theorem reads_minusZero :
    Reads (Number.text (.float (.zero true))) (.number (.float (.zero true))) 0 := by
  have htext : Number.text (.float (.zero true)) = ['-', '0', '.', '0'] := by decide +kernel
  rw [htext]
  refine Reads.of_cons (by decide) (by decide) ?_
  intro fuel depth rest _ _ hrest
  have hread : readUnsigned true ('0' :: '.' :: '0' :: rest) =
      readFraction true 0 0 ('0' :: rest) := rfl
  rw [readValue, skipSpace_cons (by decide)]
  simp only [List.cons_append, List.nil_append, hread, readFraction_zero hrest, Except.map]

theorem reads_whole {n : Number} (h : n.isWhole = true) : Reads n.text (.number n) 0 := by
  cases n with
  | integer n => exact reads_integer h
  | float x =>
      obtain rfl : x = .zero true := by simpa [Number.isWhole] using h
      exact reads_minusZero

/-! ## Whole values -/

namespace Value

section

variable {nesting : Nat}

theorem reads_compactItems {items : List Value} (hne : items ≠ [])
    (h : ∀ v ∈ items, Reads v.compactChars v.canonical nesting) :
    ReadsItems (compactItems items) (items.map canonical) nesting := by
  induction items with
  | nil => exact absurd rfl hne
  | cons v rest ih =>
      have hv := h v List.mem_cons_self
      cases rest with
      | nil => exact readsItems_last hv isBlank_nil
      | cons w rest =>
          have hrest := ih (by simp) fun u hu => h u (List.mem_cons_of_mem v hu)
          exact readsItems_next hv hrest isBlank_nil

theorem reads_compactMembers {members : List (String × Value)} (hne : members ≠ [])
    (h : ∀ m ∈ members, Reads m.2.compactChars m.2.canonical nesting) :
    ∃ text, compactMembers members = '"' :: text ∧
      ReadsMembers text (members.map fun m => (m.1, m.2.canonical)) nesting := by
  induction members with
  | nil => exact absurd rfl hne
  | cons m rest ih =>
      obtain ⟨k, v⟩ := m
      have hv := h (k, v) List.mem_cons_self
      cases rest with
      | nil =>
          refine ⟨_, ?_, readsMembers_last hv isBlank_nil isBlank_nil k⟩
          simp [compactMembers, quoted]
      | cons n rest =>
          obtain ⟨more, hmore, hrest⟩ :=
            ih (by simp) fun m hm => h m (List.mem_cons_of_mem (k, v) hm)
          refine ⟨_, ?_, readsMembers_next hv hrest isBlank_nil isBlank_nil k⟩
          rw [compactMembers, hmore]
          · simp [quoted]
          · simp

theorem reads_prettyItems (depth : Nat) {items : List Value} (hne : items ≠ [])
    (h : ∀ v ∈ items, Reads (v.prettyChars (depth + 1)) v.canonical nesting) :
    ∃ text, prettyItems depth items = newline (depth + 1) ++ text ∧
      ReadsItems text (items.map canonical) nesting := by
  induction items with
  | nil => exact absurd rfl hne
  | cons v rest ih =>
      have hv := h v List.mem_cons_self
      cases rest with
      | nil =>
          refine ⟨_, ?_, readsItems_last hv (isBlank_newline depth)⟩
          simp [prettyItems]
      | cons w rest =>
          obtain ⟨more, hmore, hrest⟩ := ih (by simp) fun u hu => h u (List.mem_cons_of_mem v hu)
          refine ⟨_, ?_, readsItems_next hv hrest (isBlank_newline (depth + 1))⟩
          rw [prettyItems, hmore]
          · simp
          · simp

theorem reads_prettyMembers (depth : Nat) {members : List (String × Value)} (hne : members ≠ [])
    (h : ∀ m ∈ members, Reads (m.2.prettyChars (depth + 1)) m.2.canonical nesting) :
    ∃ text, prettyMembers depth members = newline (depth + 1) ++ '"' :: text ∧
      ReadsMembers text (members.map fun m => (m.1, m.2.canonical)) nesting := by
  have hspace : IsBlank [' '] := by simp [IsBlank, isSpace]
  induction members with
  | nil => exact absurd rfl hne
  | cons m rest ih =>
      obtain ⟨k, v⟩ := m
      have hv := h (k, v) List.mem_cons_self
      cases rest with
      | nil =>
          refine ⟨_, ?_, readsMembers_last hv hspace (isBlank_newline depth) k⟩
          simp [prettyMembers, quoted]
      | cons n rest =>
          obtain ⟨more, hmore, hrest⟩ :=
            ih (by simp) fun m hm => h m (List.mem_cons_of_mem (k, v) hm)
          refine ⟨_, ?_, readsMembers_next hv hrest hspace (isBlank_newline (depth + 1)) k⟩
          rw [prettyMembers, hmore]
          · simp [quoted]
          · simp

end

theorem reads_compactChars {v : Value} (h : v.isWhole = true) :
    Reads v.compactChars v.canonical v.nesting := by
  unfold isWhole at h
  induction v using induction with
  | null => exact reads_null
  | bool b => exact reads_bool b
  | number n => exact reads_whole h
  | string s => exact reads_string s
  | array items ih =>
      have hitems : ∀ v ∈ items, Reads v.compactChars v.canonical (nestingItems items) :=
        fun v hv => (ih v hv ((all_array_iff.mp h).2 v hv)).mono
          (nestingItems_le_iff.mp (Nat.le_refl _) v hv)
      cases items with
      | nil => exact reads_emptyArray
      | cons v rest =>
          rw [canonical_array]
          exact reads_array (reads_compactItems (by simp) hitems) isBlank_nil
  | object members ih =>
      have hmembers : ∀ m ∈ members,
          Reads m.2.compactChars m.2.canonical (nestingMembers members) :=
        fun m hm => (ih m hm ((all_object_iff.mp h).2 m hm)).mono
          (nestingMembers_le_iff.mp (Nat.le_refl _) m hm)
      cases members with
      | nil => exact reads_emptyObject
      | cons m rest =>
          obtain ⟨text, htext, hread⟩ := reads_compactMembers (by simp) hmembers
          rw [canonical_object, compactChars, htext]
          exact reads_object hread isBlank_nil

theorem reads_prettyChars {v : Value} (h : v.isWhole = true) (depth : Nat) :
    Reads (v.prettyChars depth) v.canonical v.nesting := by
  unfold isWhole at h
  induction v using induction generalizing depth with
  | null => exact reads_null
  | bool b => exact reads_bool b
  | number n => exact reads_whole h
  | string s => exact reads_string s
  | array items ih =>
      have hitems : ∀ v ∈ items,
          Reads (v.prettyChars (depth + 1)) v.canonical (nestingItems items) :=
        fun v hv => (ih v hv ((all_array_iff.mp h).2 v hv) (depth + 1)).mono
          (nestingItems_le_iff.mp (Nat.le_refl _) v hv)
      cases items with
      | nil => exact reads_emptyArray
      | cons v rest =>
          obtain ⟨text, htext, hread⟩ := reads_prettyItems depth (by simp) hitems
          rw [canonical_array, prettyChars, htext]
          · exact reads_array hread (isBlank_newline (depth + 1))
          · simp
  | object members ih =>
      have hmembers : ∀ m ∈ members,
          Reads (m.2.prettyChars (depth + 1)) m.2.canonical (nestingMembers members) :=
        fun m hm => (ih m hm ((all_object_iff.mp h).2 m hm) (depth + 1)).mono
          (nestingMembers_le_iff.mp (Nat.le_refl _) m hm)
      cases members with
      | nil => exact reads_emptyObject
      | cons m rest =>
          obtain ⟨text, htext, hread⟩ := reads_prettyMembers depth (by simp) hmembers
          rw [canonical_object, prettyChars, htext]
          · exact reads_object hread (isBlank_newline (depth + 1))
          · simp

theorem parse_of_reads {text : String} {v : Value} {nesting : Nat}
    (h : Reads text.toList v nesting) (hdepth : nesting < depthLimit) :
    Json.parse text = .ok v := by
  have hends : EndsNumber [] := by simp [EndsNumber]
  have hread := h.read (2 * text.toList.length + 2) (by omega) hdepth hends
  rw [List.append_nil] at hread
  rw [Json.parse, parseWithin, readAll, hread]
  rfl

theorem parse_compact_of_isWhole {v : Value} (h : v.isWhole = true)
    (hdepth : v.nesting < depthLimit) : Json.parse v.compact = .ok v.canonical := by
  have hread := reads_compactChars h
  rw [← String.toList_ofList (l := v.compactChars)] at hread
  exact parse_of_reads hread hdepth

theorem parse_pretty_of_isWhole {v : Value} (h : v.isWhole = true)
    (hdepth : v.nesting < depthLimit) : Json.parse v.pretty = .ok v.canonical := by
  have hread := reads_prettyChars h 0
  rw [← String.toList_ofList (l := v.prettyChars 0)] at hread
  exact parse_of_reads hread hdepth

theorem parse_compact {v : Value} (h : v.isIntegral = true) (hdepth : v.nesting < depthLimit) :
    Json.parse v.compact = .ok v.canonical :=
  parse_compact_of_isWhole (isWhole_of_isIntegral h) hdepth

end Value

end FlowConsole.Json
