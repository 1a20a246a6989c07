import FlowConsole.Command.Run
import FlowConsole.Proofs.Action
import FlowConsole.Proofs.Files.Tree
/-!
Where the record of a command comes from.

An argument is the name of a file, of a fixture or of a built-in record, in this order. The first
that exists is the one that is read: if it holds no record that is an error, and what comes after it
is not looked at.
-/
namespace FlowConsole

theorem Record.Builtin.ofName?_eq_some_iff {name : String} {b : Builtin} :
    ofName? name = some b ↔ b.name = name := by
  constructor
  · intro h
    have hname := List.find?_some h
    exact beq_iff_eq.mp hname
  · rintro rfl
    cases b <;> rfl

namespace Command

open Json (Value)
open Record (Builtin)

inductive RecordSource
  | file (bytes : List UInt8)
  | fixture (text : String)
  | builtin (b : Builtin)

/-- The first source that goes by an argument. -/
inductive FirstSource (files : Files.Tree) (store : Fixture.Store) (argument : String) :
    RecordSource → Prop
  | file {bytes : List UInt8} (hfile : files.find argument = .ok (.file bytes)) :
      FirstSource files store argument (.file bytes)
  | fixture {text : String} (hfile : ∀ bytes, files.find argument ≠ .ok (.file bytes))
      (hfixture : store.get? argument = some text) :
      FirstSource files store argument (.fixture text)
  | builtin {b : Builtin} (hfile : ∀ bytes, files.find argument ≠ .ok (.file bytes))
      (hfixture : store.get? argument = none) (hname : b.name = argument) :
      FirstSource files store argument (.builtin b)

namespace RecordSource

inductive Holds : RecordSource → Value → Prop
  | file {bytes : List UInt8} {text : String} {v : Value}
      (htext : Text.Utf8.decode? bytes = some text) (hjson : Json.parse text = .ok v) :
      Holds (.file bytes) v
  | fixture {text : String} {v : Value} (hjson : Json.parse text = .ok v) :
      Holds (.fixture text) v
  | builtin (b : Builtin) : Holds (.builtin b) b.record

/-- Whether a source holds no record, and what is said of that. A file that cannot be read stands in
a tree as one whose bytes are no text, so it fails as that does and nothing else is looked at. -/
inductive IsMalformed (argument : String) : RecordSource → Error → Prop
  | notText {bytes : List UInt8} (htext : Text.Utf8.decode? bytes = none) :
      IsMalformed argument (.file bytes) (.files .notText)
  | notJson {bytes : List UInt8} {text : String} {problem : Json.Error}
      (htext : Text.Utf8.decode? bytes = some text) (hjson : Json.parse text = .error problem) :
      IsMalformed argument (.file bytes)
        (.validation "record" s!"{argument}: invalid JSON: {problem.message}")
  | fixture {text : String} {problem : Json.Error} (hjson : Json.parse text = .error problem) :
      IsMalformed argument (.fixture text)
        (.invalidRecord s!"fixture '{argument}': {problem.message}")

theorem holds_or_isMalformed (argument : String) (source : RecordSource) :
    (∃ v, source.Holds v) ∨ ∃ problem, source.IsMalformed argument problem := by
  cases source with
  | file bytes =>
      cases htext : Text.Utf8.decode? bytes with
      | none => exact .inr ⟨_, .notText htext⟩
      | some text =>
          cases hjson : Json.parse text with
          | error problem => exact .inr ⟨_, .notJson htext hjson⟩
          | ok v => exact .inl ⟨v, .file htext hjson⟩
  | fixture text =>
      cases hjson : Json.parse text with
      | error problem => exact .inr ⟨_, .fixture hjson⟩
      | ok v => exact .inl ⟨v, .fixture hjson⟩
  | builtin b => exact .inl ⟨_, .builtin b⟩

end RecordSource

namespace Running

/-! ## The record of an argument -/

section

variable {h : Harness} {argument : String} {e : Effects}

theorem record_of_file {bytes : List UInt8} (hfile : e.files.find argument = .ok (.file bytes)) :
    record h argument e =
      (match Text.Utf8.decode? bytes with
        | none => .error (.files .notText)
        | some text =>
          (Json.parse text).mapError fun problem =>
            .validation "record" s!"{argument}: invalid JSON: {problem.message}", e) := by
  have hisFile : e.files.isFile argument = true := Files.Tree.isFile_iff.mpr ⟨bytes, hfile⟩
  unfold record
  rw [get_bind_apply, if_pos hisFile, Files.Tree.readText_of_find hfile]
  cases Text.Utf8.decode? bytes with
  | none => rfl
  | some text =>
      dsimp only
      cases Json.parse text <;> rfl

theorem record_of_no_file (hfile : ∀ bytes, e.files.find argument ≠ .ok (.file bytes)) :
    record h argument e = ((h.record argument).mapError .ofHarness, e) := by
  have hisFile : e.files.isFile argument = false := Files.Tree.isFile_eq_false_iff.mpr hfile
  unfold record
  rw [get_bind_apply, if_neg (by simp [hisFile])]
  cases h.record argument <;> rfl

theorem record_of_fixture {text : String}
    (hfile : ∀ bytes, e.files.find argument ≠ .ok (.file bytes))
    (hfixture : h.fixtures.get? argument = some text) :
    record h argument e =
      ((Json.parse text).mapError fun problem =>
        .invalidRecord s!"fixture '{argument}': {problem.message}", e) := by
  rw [record_of_no_file hfile]
  unfold Harness.record Harness.fixtureRecord
  simp only [hfixture, Option.isSome_some, if_true]
  cases Json.parse text <;> rfl

theorem record_of_no_fixture (hfile : ∀ bytes, e.files.find argument ≠ .ok (.file bytes))
    (hfixture : h.fixtures.get? argument = none) :
    record h argument e =
      ((Builtin.ofName? argument).elim (.error (.recordNotFound argument)) fun b =>
        .ok b.record, e) := by
  rw [record_of_no_file hfile]
  unfold Harness.record
  rw [hfixture]
  cases Builtin.ofName? argument <;> rfl

/-- Each source goes by its own rule, and none looks at another. -/
theorem record_of_holds {source : RecordSource} {v : Value}
    (hsource : FirstSource e.files h.fixtures argument source) (hholds : source.Holds v) :
    record h argument e = (.ok v, e) := by
  cases hholds with
  | file htext hjson =>
      cases hsource with
      | file hfile =>
          rw [record_of_file hfile]
          simp only [htext, hjson]
          rfl
  | fixture hjson =>
      cases hsource with
      | fixture hfile hfixture => rw [record_of_fixture hfile hfixture, hjson]; rfl
  | builtin b =>
      cases hsource with
      | builtin hfile hfixture hname =>
          rw [record_of_no_fixture hfile hfixture, Builtin.ofName?_eq_some_iff.mpr hname]
          rfl

theorem record_of_malformed {source : RecordSource} {problem : Error}
    (hsource : FirstSource e.files h.fixtures argument source)
    (hmalformed : source.IsMalformed argument problem) :
    record h argument e = (.error problem, e) := by
  cases hmalformed with
  | notText htext =>
      cases hsource with
      | file hfile => rw [record_of_file hfile, htext]
  | notJson htext hjson =>
      cases hsource with
      | file hfile =>
          rw [record_of_file hfile]
          simp only [htext, hjson]
          rfl
  | fixture hjson =>
      cases hsource with
      | fixture hfile hfixture => rw [record_of_fixture hfile hfixture, hjson]; rfl

theorem record_of_absent (habsent : ∀ source, ¬ FirstSource e.files h.fixtures argument source) :
    record h argument e = (.error (.recordNotFound argument), e) := by
  have hfile : ∀ bytes, e.files.find argument ≠ .ok (.file bytes) := fun bytes hbytes =>
    habsent _ (.file hbytes)
  have hfixture : h.fixtures.get? argument = none :=
    Option.eq_none_iff_forall_ne_some.mpr fun text htext => habsent _ (.fixture hfile htext)
  have hname : Builtin.ofName? argument = none :=
    Option.eq_none_iff_forall_ne_some.mpr fun b hb =>
      habsent _ (.builtin hfile hfixture (Builtin.ofName?_eq_some_iff.mp hb))
  rw [record_of_no_fixture hfile hfixture, hname]
  rfl

end

end Running

end Command

end FlowConsole
