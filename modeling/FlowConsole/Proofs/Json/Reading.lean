import FlowConsole.Proofs.Json.Members
import FlowConsole.Json.Reader
/-!
What the reader lets through.

A value that is read is ordered, and it nests no deeper than its reader allows; a reader that allows
more reads it as well.
-/
namespace FlowConsole.Json

/-- An ordered value whose brackets nest at most `levels` deep. -/
structure Value.Fits (v : Value) (levels : Nat) : Prop where
  ordered : v.isOrdered = true
  nesting_le : v.nesting ≤ levels

section

variable {levels : Nat}

theorem Value.Fits.mono {v : Value} (h : v.Fits levels) {more : Nat} (hle : levels ≤ more) :
    v.Fits more :=
  ⟨h.ordered, Nat.le_trans h.nesting_le hle⟩

theorem fits_array {items : List Value} (h : ∀ v ∈ items, v.Fits levels) :
    (Value.array items).Fits (levels + 1) where
  ordered := Value.isOrdered_array_iff.mpr fun v hv => (h v hv).ordered
  nesting_le := by
    rw [Value.nesting]
    exact Nat.succ_le_succ (Value.nestingItems_le_iff.mpr fun v hv => (h v hv).nesting_le)

theorem fits_object {members : List (String × Value)} (hsorted : Entries.Sorted members)
    (h : ∀ m ∈ members, m.2.Fits levels) : (Value.object members).Fits (levels + 1) where
  ordered := Value.isOrdered_object_iff.mpr ⟨hsorted, fun m hm => (h m hm).ordered⟩
  nesting_le := by
    rw [Value.nesting]
    exact Nat.succ_le_succ (Value.nestingMembers_le_iff.mpr fun m hm => (h m hm).nesting_le)

end

/-! ## One step of each reader -/

/-- How reading a value depends on the depth: not at all, or, behind a bracket, by refusing it where
it would be too deep and reading on with one level less. -/
inductive DependsOnDepth (fuel : Nat) : (Nat → Step Value) → Prop
  | scalar (r : Step Value) (h : ∀ v rest, r = .ok (v, rest) → v.Fits 0) :
      DependsOnDepth fuel fun _ => r
  | bracket (fault : Fault) (r : Step Value) (h : ∀ v rest, r = .ok (v, rest) → v.Fits 1) :
      DependsOnDepth fuel fun depth => if depth ≤ 1 then .error fault else r
  | items (fault : Fault) (s : List Char) :
      DependsOnDepth fuel fun depth =>
        if depth ≤ 1 then .error fault else readItems fuel (depth - 1) [] s
  | members (fault : Fault) (s : List Char) :
      DependsOnDepth fuel fun depth =>
        if depth ≤ 1 then .error fault else readMembers fuel (depth - 1) [] s

theorem readWord_eq_ok {α : Type} {value : α} {word s : List Char} {r : α × List Char}
    (h : readWord value word s = .ok r) : r.1 = value := by
  induction word generalizing s with
  | nil => cases h; rfl
  | cons w word ih =>
      cases s with
      | nil => nomatch h
      | cons c s =>
          rw [readWord] at h
          split at h
          · exact ih h
          · nomatch h

section

variable {fuel : Nat}

theorem DependsOnDepth.failure (fault : Fault) : DependsOnDepth fuel fun _ => .error fault :=
  .scalar _ fun _ _ h => nomatch h

theorem DependsOnDepth.word {value : Value} (hvalue : value.Fits 0) (word s : List Char) :
    DependsOnDepth fuel fun _ => readWord value word s := by
  apply DependsOnDepth.scalar
  intro v rest h
  obtain rfl : v = value := readWord_eq_ok h
  exact hvalue

theorem DependsOnDepth.map {α : Type} {make : α → Value} (hmake : ∀ a, (make a).Fits 0)
    (r : Step α) : DependsOnDepth fuel fun _ => r.map fun x => (make x.1, x.2) := by
  apply DependsOnDepth.scalar
  intro v rest h
  cases r with
  | error fault => nomatch h
  | ok x =>
      cases h
      exact hmake x.1

theorem readValue_dependsOnDepth (fuel : Nat) (s : List Char) :
    DependsOnDepth fuel fun depth => readValue (fuel + 1) depth s := by
  have hnull : Value.null.Fits 0 := ⟨rfl, Nat.le_refl 0⟩
  have hbool : ∀ b, (Value.bool b).Fits 0 := fun _ => ⟨rfl, Nat.le_refl 0⟩
  have hnumber : ∀ n, (Value.number n).Fits 0 := fun _ => ⟨rfl, Nat.le_refl 0⟩
  have hstring : ∀ t, (Value.string t).Fits 0 := fun _ => ⟨rfl, Nat.le_refl 0⟩
  simp only [readValue]
  split
  case h_1 => exact .failure _
  case h_2 => exact .word hnull _ _
  case h_3 => exact .word (hbool true) _ _
  case h_4 => exact .word (hbool false) _ _
  case h_5 => exact .map hstring _
  case h_6 => exact .map hnumber _
  case h_7 =>
    split
    · exact .bracket _ _ (by rintro v rest ⟨⟩; exact ⟨rfl, Nat.le_refl 1⟩)
    · exact .bracket _ _ fun _ _ h => nomatch h
    · exact .items _ _
  case h_8 =>
    split
    · exact .bracket _ _ (by rintro v rest ⟨⟩; exact ⟨rfl, Nat.le_refl 1⟩)
    · exact .members _ _
    · exact .bracket _ _ fun _ _ h => nomatch h
    · exact .bracket _ _ fun _ _ h => nomatch h
  case h_9 =>
    split
    · exact .map hnumber _
    · exact .failure _

end

section

variable {fuel depth : Nat} {s rest : List Char} {v : Value}

theorem readItems_eq_ok {seen : List Value}
    (h : readItems (fuel + 1) depth seen s = .ok (v, rest)) :
    ∃ item behind, readValue fuel depth s = .ok (item, behind) ∧
      ((v = .array (item :: seen).reverse ∧ ∀ depth',
          readValue fuel depth' s = .ok (item, behind) →
            readItems (fuel + 1) depth' seen s = .ok (v, rest)) ∨
        ∃ more, readItems fuel depth (item :: seen) more = .ok (v, rest) ∧ ∀ depth',
          readValue fuel depth' s = .ok (item, behind) →
            readItems (fuel + 1) depth' seen s = readItems fuel depth' (item :: seen) more) := by
  rw [readItems] at h
  split at h
  · nomatch h
  · rename_i item behind hitem
    refine ⟨item, behind, hitem, ?_⟩
    split at h
    · nomatch h
    · rename_i hbehind
      cases h
      refine .inl ⟨rfl, fun depth' hread => ?_⟩
      rw [readItems, hread]
      simp only [hbehind]
    · rename_i hbehind
      split at h
      · nomatch h
      · nomatch h
      · rename_i hmore
        refine .inr ⟨_, h, fun depth' hread => ?_⟩
        rw [readItems, hread]
        simp only [hbehind]
    · nomatch h

theorem readMembers_eq_ok {seen : List (String × Value)}
    (h : readMembers (fuel + 1) depth seen s = .ok (v, rest)) :
    ∃ key t value behind, readValue fuel depth t = .ok (value, behind) ∧
      ((v = .object (Entries.insert key value seen) ∧ ∀ depth',
          readValue fuel depth' t = .ok (value, behind) →
            readMembers (fuel + 1) depth' seen s = .ok (v, rest)) ∨
        ∃ more, readMembers fuel depth (Entries.insert key value seen) more = .ok (v, rest) ∧
          ∀ depth', readValue fuel depth' t = .ok (value, behind) →
            readMembers (fuel + 1) depth' seen s =
              readMembers fuel depth' (Entries.insert key value seen) more) := by
  rw [readMembers] at h
  split at h
  · nomatch h
  · rename_i key behindKey hkey
    split at h
    · nomatch h
    · rename_i t hcolon
      split at h
      · nomatch h
      · rename_i value behind hvalue
        refine ⟨key, t, value, behind, hvalue, ?_⟩
        split at h
        · nomatch h
        · rename_i hbehind
          cases h
          refine .inl ⟨rfl, fun depth' hread => ?_⟩
          rw [readMembers, hkey]
          simp only [hcolon, hread, hbehind]
        · rename_i hbehind
          split at h
          · nomatch h
          · rename_i hmore
            refine .inr ⟨_, h, fun depth' hread => ?_⟩
            rw [readMembers, hkey]
            simp only [hcolon, hread, hbehind, hmore]
          · nomatch h
          · nomatch h
        · nomatch h

end

/-! ## Whole values -/

/-- A reader's result and what it says of greater depths. -/
structure ReadWithin (read : Nat → Step Value) (levels : Nat) (v : Value) (rest : List Char)
    (bound : Nat) : Prop where
  fits : v.Fits bound
  deeper : ∀ more, levels ≤ more → read (more + 1) = .ok (v, rest)

theorem ok_of_bracket {fault : Fault} {levels : Nat} {r : Step Value} {x : Value × List Char}
    (h : (if levels + 1 ≤ 1 then .error fault else r) = .ok x) : 1 ≤ levels ∧ r = .ok x := by
  split at h
  · nomatch h
  · exact ⟨by omega, h⟩

theorem ReadWithin.bracket {read : Nat → Step Value} {levels bound : Nat} {v : Value}
    {rest : List Char} (h : ReadWithin read levels v rest bound) (fault : Fault) :
    ReadWithin (fun depth => if depth ≤ 1 then .error fault else read (depth - 1)) (levels + 1) v
      rest bound where
  fits := h.fits
  deeper := by
    intro more hle
    obtain ⟨more, rfl⟩ := Nat.exists_eq_add_of_le' (Nat.le_trans (Nat.le_add_left 1 levels) hle)
    rw [if_neg (by omega)]
    exact h.deeper more (by omega)

theorem readWithin (fuel : Nat) :
    (∀ {levels : Nat} {s rest : List Char} {v : Value},
      readValue fuel (levels + 1) s = .ok (v, rest) →
        ReadWithin (readValue fuel · s) levels v rest levels) ∧
    (∀ {levels : Nat} {seen : List Value} {s rest : List Char} {v : Value},
      readItems fuel (levels + 1) seen s = .ok (v, rest) → (∀ w ∈ seen, w.Fits levels) →
        ReadWithin (readItems fuel · seen s) levels v rest (levels + 1)) ∧
    (∀ {levels : Nat} {seen : List (String × Value)} {s rest : List Char} {v : Value},
      readMembers fuel (levels + 1) seen s = .ok (v, rest) → Entries.Sorted seen →
        (∀ m ∈ seen, m.2.Fits levels) →
          ReadWithin (readMembers fuel · seen s) levels v rest (levels + 1)) := by
  -- the readers call one another with less fuel, so all three are taken together
  induction fuel with
  | zero =>
      refine ⟨?_, ?_, ?_⟩
      · intro _ _ _ _ h
        nomatch h
      · intro _ _ _ _ _ h
        nomatch h
      · intro _ _ _ _ _ h
        nomatch h
  | succ fuel ih =>
      obtain ⟨ihValue, ihItems, ihMembers⟩ := ih
      refine ⟨?value, ?items, ?members⟩
      case value =>
        intro levels s rest v h
        -- only how the reader looks at the depth matters, not which character it is at
        have hshape := readValue_dependsOnDepth fuel s
        change (fun depth => readValue (fuel + 1) depth s) (levels + 1) = _ at h
        generalize (fun depth => readValue (fuel + 1) depth s) = read at hshape h ⊢
        cases hshape with
        | scalar r hr => exact ⟨(hr v rest h).mono (Nat.zero_le levels), fun _ _ => h⟩
        | bracket fault r hr =>
            obtain ⟨hdepth, h⟩ := ok_of_bracket h
            refine ⟨(hr v rest h).mono hdepth, fun more hle => ?_⟩
            rw [if_neg (by omega), h]
        | items fault t =>
            obtain ⟨hdepth, h⟩ := ok_of_bracket h
            obtain ⟨levels, rfl⟩ := Nat.exists_eq_add_of_le' hdepth
            exact (ihItems h (by simp)).bracket fault
        | members fault t =>
            obtain ⟨hdepth, h⟩ := ok_of_bracket h
            obtain ⟨levels, rfl⟩ := Nat.exists_eq_add_of_le' hdepth
            exact (ihMembers h List.Pairwise.nil (by simp)).bracket fault
      case items =>
        intro levels seen s rest v h hseen
        obtain ⟨item, behind, hitem, hrest⟩ := readItems_eq_ok h
        have hread := ihValue hitem
        have hall : ∀ w ∈ item :: seen, w.Fits levels := List.forall_mem_cons.mpr ⟨hread.fits, hseen⟩
        rcases hrest with ⟨rfl, hlast⟩ | ⟨more, hmore, hnext⟩
        · refine ⟨fits_array fun w hw => hall w (List.mem_reverse.mp hw), fun deeper hle => ?_⟩
          exact hlast _ (hread.deeper deeper hle)
        · obtain ⟨hfits, hdeeper⟩ := ihItems hmore hall
          refine ⟨hfits, fun deeper hle => ?_⟩
          rw [hnext _ (hread.deeper deeper hle)]
          exact hdeeper deeper hle
      case members =>
        intro levels seen s rest v h hsorted hseen
        obtain ⟨key, t, value, behind, hvalue, hrest⟩ := readMembers_eq_ok h
        have hread := ihValue hvalue
        have hsorted' : Entries.Sorted (Entries.insert key value seen) :=
          hsorted.insert key value
        have hall : ∀ m ∈ Entries.insert key value seen, m.2.Fits levels := by
          intro m hm
          rcases Entries.mem_insert hm with rfl | hm
          · exact hread.fits
          · exact hseen m hm
        rcases hrest with ⟨rfl, hlast⟩ | ⟨more, hmore, hnext⟩
        · exact ⟨fits_object hsorted' hall, fun deeper hle => hlast _ (hread.deeper deeper hle)⟩
        · obtain ⟨hfits, hdeeper⟩ := ihMembers hmore hsorted' hall
          refine ⟨hfits, fun deeper hle => ?_⟩
          rw [hnext _ (hread.deeper deeper hle)]
          exact hdeeper deeper hle

theorem parseWithin_eq_ok {depth : Nat} {text : String} {v : Value}
    (h : parseWithin depth text = .ok v) :
    ∃ rest, readValue (2 * text.toList.length + 2) depth text.toList = .ok (v, rest) ∧
      skipSpace rest = [] := by
  unfold parseWithin readAll at h
  split at h
  · nomatch h
  · rename_i w rest hread
    split at h
    · rename_i hrest
      cases h
      exact ⟨rest, hread, hrest⟩
    · nomatch h

section

variable {levels : Nat} {text : String} {v : Value}

theorem parseWithin_fits (h : parseWithin (levels + 1) text = .ok v) : v.Fits levels := by
  obtain ⟨rest, hread, -⟩ := parseWithin_eq_ok h
  exact ((readWithin _).1 hread).fits

theorem parseWithin_deeper (h : parseWithin (levels + 1) text = .ok v) {more : Nat}
    (hle : levels ≤ more) : parseWithin (more + 1) text = .ok v := by
  obtain ⟨rest, hread, hrest⟩ := parseWithin_eq_ok h
  unfold parseWithin readAll
  rw [((readWithin _).1 hread).deeper more hle]
  simp only [hrest]
  rfl

theorem parse_fits (h : Json.parse text = .ok v) : v.Fits (depthLimit - 1) :=
  parseWithin_fits h

theorem parse_ne_ok_of_nesting (h : parseWithin (levels + 1) text = .ok v)
    (hdeep : depthLimit ≤ v.nesting) (w : Value) : Json.parse text ≠ .ok w := by
  intro hparse
  have hlevels : depthLimit ≤ levels := Nat.le_trans hdeep (parseWithin_fits h).nesting_le
  have hmore : depthLimit - 1 ≤ levels := by omega
  have hsame := parseWithin_deeper hparse hmore
  rw [h, Except.ok.injEq] at hsame
  have hle := (parse_fits hparse).nesting_le
  rw [← hsame] at hle
  exact absurd (Nat.le_trans hdeep hle) (by decide)

end

end FlowConsole.Json
