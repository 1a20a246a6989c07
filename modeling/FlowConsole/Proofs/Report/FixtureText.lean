import FlowConsole.Proofs.Json.Reading
import FlowConsole.Proofs.Report.JsonText
/-!
Shown fixtures: the value in a text is kept, and showing what is shown changes nothing.
-/
namespace FlowConsole.Report

open Json (Value)

theorem Format.sortedText_eq (f : Format) {v : Value} (h : v.isOrdered = true) :
    f.sortedText v = f.jsonText v := by
  cases f with
  | compact => rfl
  | table | json => exact congrArg Value.pretty (Value.sorted_eq_self h)

section

variable {text : String} {v : Value}

/-- What is read is ordered before it is shown. -/
theorem fixtureText_of_ok (h : Json.parse text = .ok v) (f : Format) :
    fixtureText f text = f.jsonText v := by
  unfold fixtureText
  rw [h]
  exact f.sortedText_eq (Json.parse_fits h).ordered

theorem fixtureText_of_not_json (h : ∀ v, Json.parse text ≠ .ok v) (f : Format) :
    fixtureText f text = text := by
  unfold fixtureText
  split
  · rename_i v hv
    exact absurd hv (h v)
  · rfl

theorem parse_fixtureText (h : Json.parse text = .ok v) (hwhole : v.isWhole = true) (f : Format) :
    Json.parse (fixtureText f text) = .ok v := by
  have hfits := Json.parse_fits h
  have hdepth : v.nesting < Json.depthLimit := Nat.lt_of_le_of_lt hfits.nesting_le (by decide)
  rw [fixtureText_of_ok h, parse_jsonText f hwhole hdepth, Value.canonical_eq_self hfits.ordered]

theorem fixtureText_fixtureText (hnumbers : ∀ v, Json.parse text = .ok v → v.isWhole = true)
    (f f' : Format) : fixtureText f (fixtureText f' text) = fixtureText f text := by
  cases h : Json.parse text with
  | ok v => rw [fixtureText_of_ok (parse_fixtureText h (hnumbers v h) f'), fixtureText_of_ok h]
  | error e =>
      have hnot : ∀ v, Json.parse text ≠ .ok v := by
        intro v hv
        rw [h] at hv
        nomatch hv
      rw [fixtureText_of_not_json hnot f']

/-- Where all numbers are whole, showing a fixture again in any format is showing it in that format.
A text that is JSON is shown as the value that is read from it, with the keys of all objects
ascending, and is read again as that value. Any other text is shown as it is, and so is JSON that
nests too deep. -/
theorem fixtureText_stable (hnumbers : ∀ v, Json.parse text = .ok v → v.isWhole = true) :
    (∀ f f', fixtureText f (fixtureText f' text) = fixtureText f text) ∧
      (∀ v, Json.parse text = .ok v → v.isOrdered = true ∧
        ∀ f, fixtureText f text = f.jsonText v ∧ Json.parse (fixtureText f text) = .ok v) ∧
      ((∀ v, Json.parse text ≠ .ok v) → ∀ f, fixtureText f text = text) ∧
      ∀ levels v, Json.parseWithin (levels + 1) text = .ok v → Json.depthLimit ≤ v.nesting →
        ∀ f, fixtureText f text = text := by
  refine ⟨fixtureText_fixtureText hnumbers, ?json, fixtureText_of_not_json, ?tooDeep⟩
  case json =>
    intro v h
    exact ⟨(Json.parse_fits h).ordered, fun f =>
      ⟨fixtureText_of_ok h f, parse_fixtureText h (hnumbers v h) f⟩⟩
  case tooDeep =>
    intro levels v h hdeep
    exact fixtureText_of_not_json (Json.parse_ne_ok_of_nesting h hdeep)

end

/-- An object with keys out of order, one of them twice, and with a minus zero. -/
def scrambled : Value :=
  .object [("b", .null), ("a", .array [.object [("d", .string "\n"), ("c", .object [])]]),
    ("b", .number (.float (.zero true)))]

theorem fixtureText_stable_scrambled :
    (∀ v, Json.parse scrambled.compact = .ok v → v.isWhole = true) ∧
      (∀ f f', fixtureText f (fixtureText f' scrambled.compact) =
        fixtureText f scrambled.compact) ∧
      ∀ f, Json.parse (fixtureText f scrambled.compact) = .ok scrambled.canonical := by
  have hread : Json.parse scrambled.compact = .ok scrambled.canonical :=
    Value.parse_compact_of_isWhole (by decide) (by decide)
  have hnumbers : ∀ v, Json.parse scrambled.compact = .ok v → v.isWhole = true := by
    intro v hv
    rw [hread] at hv
    cases hv
    decide
  obtain ⟨hagain, hjson, -⟩ := fixtureText_stable hnumbers
  exact ⟨hnumbers, hagain, fun f => ((hjson _ hread).2 f).2⟩

end FlowConsole.Report
