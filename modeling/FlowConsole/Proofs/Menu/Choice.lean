import FlowConsole.Proofs.Fixture.Letter
import FlowConsole.Proofs.Menu.Dialogue
/-!
Choosing a fixture from the menu.

The catalogue that the menu prints gives each fixture a letter of its own, and the next line chooses
by these letters: it is answered with the text of the fixture whose letter it is, or rejected.
-/
namespace FlowConsole.Menu

open Fixture (Chooses Entry)
open Restconf (Session)

theorem ofKey?_eq_printJson_iff {line : String} :
    Action.ofKey? line = some .printJson ↔ Text.trim line = "13" := by
  unfold Action.ofKey?
  constructor
  · intro h
    dsimp only at h
    split at h
    · cases h
    · have hkey := List.find?_some h
      exact (beq_iff_eq.mp hkey).symm
  · intro h
    rw [h]
    rfl

/-- What the menu prints from its frame to the last line of the catalogue. -/
def catalogueOutput (h : Harness) (d : Display) : String :=
  text ++ prompt ++ Action.printJson.label ++ "\n" ++
    onLines (Report.reportText d.format d.color (.catalogue h.fixtures.catalogue))

def choiceAnswer (d : Display) : Option (String × String) → String
  | some f => Report.fixtureText d.format f.2 ++ "\n"
  | none => rejection

section

variable (h : Harness) (d : Display) (session : Session) {line : String}

theorem fixtureAnswer_eq (wanted : String) :
    fixtureAnswer h d wanted = choiceAnswer d (h.fixtures.select? wanted) := by
  unfold fixtureAnswer choiceAnswer
  rfl

/-- Nothing is sent for the catalogue, and a letter is asked for if it shows any. -/
theorem serve_catalogue (hline : Text.trim line = "13") (rest : List String) :
    serve h d session (line :: rest) =
      (if h.fixtures.isEmpty then serve h d session rest else serveLetter h d session rest).after
        (catalogueOutput h d) := by
  rw [serve_action (ofKey?_eq_printJson_iff.mpr hline) nofun]
  change (if asksForLetter (.catalogue h.fixtures.catalogue) then
      (serveLetter h d session rest).after (catalogueOutput h d)
    else (serve h d session rest).after (catalogueOutput h d)) = _
  rw [asksForLetter, catalogue_isEmpty]
  cases h.fixtures.isEmpty <;> rfl

end

/-- Letters choose what the catalogue shows. They differ from each other, each text chooses in
exactly one way, and the menu answers the line after the catalogue with what that line chooses.
Without fixtures there is no such line. -/
theorem letters_choose (h : Harness) :
    (h.fixtures.catalogue.map Entry.letter).Nodup ∧
      (∀ wanted chosen, h.fixtures.select? wanted = chosen ↔ Chooses h.fixtures wanted chosen) ∧
      ∀ (d : Display) (start session : Session) (front : List String),
        (State.atMain start).readAll h front = .atMain session →
        ∃ before, ∀ input line rest, lines input = front ++ line :: rest → Text.trim line = "13" →
          (h.fixtures.isEmpty = true →
            run h d start input =
              (serve h d session rest).after (before ++ catalogueOutput h d)) ∧
          (h.fixtures.isEmpty = false → ∀ wanted back chosen, rest = wanted :: back →
            Chooses h.fixtures wanted chosen →
            run h d start input =
              (serve h d session back).after
                (before ++ catalogueOutput h d ++ prompt ++ choiceAnswer d chosen)) := by
  refine ⟨Fixture.Store.nodup_letters h.fixtures,
    fun wanted chosen => Fixture.Store.select?_eq_iff_chooses,
    fun d start session front hfront => ?_⟩
  obtain ⟨output, houtput⟩ := State.serve_front h d (.atMain start) front
  rw [hfront] at houtput
  refine ⟨String.join (h.fixtures.names.map (· ++ "\n")) ++ output,
    fun input line rest hinput hline => ?_⟩
  have hrun : run h d start input =
      (serve h d session (line :: rest)).after
        (String.join (h.fixtures.names.map (· ++ "\n")) ++ output) := by
    have hserved := houtput (line :: rest)
    rw [← hinput] at hserved
    rw [run, ← Transcript.after_after]
    exact congrArg (Transcript.after _) hserved
  rw [hrun, serve_catalogue h d session hline, Transcript.after_after]
  constructor
  · intro hempty
    rw [if_pos hempty]
  · rintro hempty wanted back chosen rfl hchosen
    rw [if_neg (by rw [hempty]; decide), serveLetter, fixtureAnswer_eq,
      Fixture.Store.select?_eq_iff_chooses.mpr hchosen, Transcript.after_after,
      ← String.append_assoc]

/-- Twenty-eight fixtures. The last two have letters of two characters. -/
def shelf : Fixture.Store where
  entries := (List.range 28).map fun i => (String.ofList (List.replicate i 'v'), "<flow/>")
  sorted := by
    have : IsTrans (String × String) fun a b => a.1 < b.1 := ⟨fun _ _ _ => lt_trans⟩
    apply List.isChain_iff_pairwise.mp
    decide

theorem shelf_chooses_ab :
    Chooses shelf " ab\t" (some (String.ofList (List.replicate 27 'v'), "<flow/>")) := by
  apply Fixture.Store.select?_eq_iff_chooses.mp
  rw [Fixture.Store.select?_eq_some_iff]
  refine ⟨27, ?_, rfl⟩
  rw [Fixture.letter_eq, Fixture.letterChars_of_le (by decide),
    Fixture.letterChars_of_lt (by decide)]
  decide

theorem letters_choose_ab :
    let h : Harness := { fixtures := shelf, node := 1, table := 0 }
    let d : Display := { format := .table, color := false }
    let s : Session := Harness.connect .standard .unreachable
    (State.atMain s).readAll h ["14"] = .atMain s ∧
      lines "14\n 13\n ab\t\nq\n" = ["14", " 13", " ab\t", "q"] ∧
      Text.trim " 13" = "13" ∧ h.fixtures.isEmpty = false ∧
      Chooses h.fixtures " ab\t" (some (String.ofList (List.replicate 27 'v'), "<flow/>")) ∧
      ∃ before, run h d s "14\n 13\n ab\t\nq\n" =
        (serve h d s ["q"]).after (before ++ catalogueOutput h d ++ prompt ++ "<flow/>\n") := by
  intro h d s
  have hfront : (State.atMain s).readAll h ["14"] = .atMain s := rfl
  have hlines : lines "14\n 13\n ab\t\nq\n" = ["14", " 13", " ab\t", "q"] := by decide
  have hline : Text.trim " 13" = "13" := by decide
  obtain ⟨before, hbefore⟩ := (letters_choose h).2.2 d s s ["14"] hfront
  have hrun := (hbefore _ _ _ hlines hline).2 rfl _ _ _ rfl shelf_chooses_ab
  exact ⟨hfront, hlines, hline, rfl, shelf_chooses_ab, before, hrun⟩

end FlowConsole.Menu
