import FlowConsole.Menu.Session
import FlowConsole.Proofs.Action
import FlowConsole.Proofs.Text.Split
/-!
The dialogue of the menu.

A dialogue does what its lines select, one action after the other, and nothing else. Which lines
select is told by the lines and the fixtures alone. It ends at the first line that quits or that
selects an action which fails, or with the input; what follows that line is never looked at.
-/
namespace FlowConsole.Menu

open Restconf (Session)

/-- Whether the line after an action is the letter of a fixture. -/
def asksLetter (h : Harness) (action : Action) : Bool :=
  action == .printJson && !h.fixtures.isEmpty

/-- The actions that lines select up to the first that quits. `due` says that the first line is the
letter of a fixture. -/
def selections (h : Harness) : (due : Bool) → List String → List Action
  | _, [] => []
  | true, _ :: rest => selections h false rest
  | false, line :: rest =>
    match Action.ofKey? line with
    | none => selections h false rest
    | some .quit => []
    | some action => action :: selections h (asksLetter h action) rest

def runActions (h : Harness) : List Action → Session → Option Harness.Error × Session
  | [], session => (none, session)
  | action :: rest, session =>
    match h.run action session with
    | (.error e, session) => (some e, session)
    | (.ok _, session) => runActions h rest session

/-- Where a dialogue stands between two lines. -/
inductive State
  | atMain (session : Session)
  | atLetter (session : Session)
  | ended (error : Option Harness.Error) (session : Session)

namespace State

def read (h : Harness) : State → String → State
  | atMain session, line =>
    match Action.ofKey? line with
    | none => atMain session
    | some .quit => ended none session
    | some action =>
      match h.run action session with
      | (.error e, session) => ended (some e) session
      | (.ok _, session) => if asksLetter h action then atLetter session else atMain session
  | atLetter session, _ => atMain session
  | ended error session, _ => ended error session

def readAll (h : Harness) (state : State) (lines : List String) : State :=
  lines.foldl (read h) state

def result : State → Option Harness.Error × Session
  | atMain session => (none, session)
  | atLetter session => (none, session)
  | ended error session => (error, session)

def isEnded : State → Bool
  | ended _ _ => true
  | _ => false

end State

namespace Transcript

theorem after_empty (t : Transcript) : t.after "" = t := by
  rw [after, String.empty_append]

theorem after_after (t : Transcript) (first second : String) :
    (t.after second).after first = t.after (first ++ second) := by
  rw [after, after, after, String.append_assoc]

end Transcript

/-! ## Lines of an input -/

theorem splitOn_lines {parts : List String} (hparts : ∀ p ∈ parts, '\n' ∉ p.toList)
    {last : List Char} (hlast : '\n' ∉ last) :
    Text.splitOn '\n' ((String.join (parts.map (· ++ "\n"))).toList ++ last) =
      parts.map String.toList ++ [last] := by
  have hone : ∀ {s : List Char}, '\n' ∉ s → Text.splitWhere (· == '\n') s = [s] := fun hs =>
    Text.splitWhere_eq_singleton fun c hc => beq_eq_false_iff_ne.mpr fun h => hs (h ▸ hc)
  induction parts with
  | nil => exact hone hlast
  | cons part parts ih =>
      rw [List.forall_mem_cons] at hparts
      have htext : (String.join ((part :: parts).map (· ++ "\n"))).toList ++ last =
          part.toList ++ '\n' :: ((String.join (parts.map (· ++ "\n"))).toList ++ last) := by
        simp [String.toList_join]
      rw [htext, Text.splitOn, Text.splitWhere_append_cons rfl, hone hparts.1, List.map_cons,
        List.singleton_append, List.cons_append]
      exact congrArg _ (ih hparts.2)

/-- A text made of lines has these lines; what stands behind the last line end is one more, unless
it is empty. -/
theorem lines_join {parts : List String} (hparts : ∀ p ∈ parts, '\n' ∉ p.toList) {last : String}
    (hlast : '\n' ∉ last.toList) :
    lines (String.join (parts.map (· ++ "\n")) ++ last) =
      if last = "" then parts else parts ++ [last] := by
  have hback : (parts.map String.toList).map String.ofList = parts := by simp
  unfold lines
  rw [String.toList_append, splitOn_lines hparts hlast]
  simp only [List.getLast?_concat, Option.some.injEq, String.toList_eq_nil_iff,
    List.dropLast_concat]
  split
  · exact hback
  · rw [List.map_append, hback, List.map_singleton, String.ofList_toList]

/-! ## One action -/

theorem ofKey?_eq_quit_iff {line : String} :
    Action.ofKey? line = some .quit ↔ Text.trim line = "q" ∨ Text.trim line = "quit" := by
  unfold Action.ofKey?
  constructor
  · intro h
    dsimp only at h
    split at h
    · exact .inr ‹_›
    · have hkey := List.find?_some h
      exact .inl (beq_iff_eq.mp hkey).symm
  · rintro (h | h) <;> rw [h] <;> rfl

theorem exists_of_bind_pure {α β : Type} {x : Harness.Action α} {f : α → β} {s s' : Session} {b : β}
    (h : (x >>= fun a => pure (f a)) s = (.ok b, s')) : ∃ a, b = f a := by
  rw [bind_pure_apply] at h
  cases hx : (x s).1 with
  | error e =>
      rw [hx] at h
      exact absurd (congrArg Prod.fst h) (by simp [Except.map])
  | ok a =>
      rw [hx] at h
      exact ⟨a, (Except.ok.inj (congrArg Prod.fst h)).symm⟩

theorem catalogue_isEmpty (s : Fixture.Store) : s.catalogue.isEmpty = s.isEmpty := by
  unfold Fixture.Store.catalogue Fixture.Store.isEmpty
  cases s.entries <;> rfl

theorem asksForLetter_eq {h : Harness} {action : Action} {s s' : Session} {report : Harness.Report}
    (hrun : h.run action s = (.ok report, s')) : asksForLetter report = asksLetter h action := by
  cases action with
  | printJson =>
      have hreport : report = .catalogue h.fixtures.catalogue :=
        (Except.ok.inj (congrArg Prod.fst hrun)).symm
      rw [hreport, asksForLetter, catalogue_isEmpty]
      rfl
  | quit =>
      have hreport : report = .quit := (Except.ok.inj (congrArg Prod.fst hrun)).symm
      rw [hreport]
      rfl
  | addCmts1 | addCmts2 | addFlow1 | addFlow2 | removeFlow1 | removeFlow2 | removeAllFlows
  | listFlowStats | listTopology | listFlows | removeCmts2 | removeCmts1 =>
      obtain ⟨a, rfl⟩ := exists_of_bind_pure hrun
      rfl

/-! ## One line -/

section

variable {h : Harness} {line : String} {action : Action}

theorem serve_action {d : Display} {session : Session} (hkey : Action.ofKey? line = some action)
    (hquit : action ≠ .quit) (rest : List String) :
    Menu.serve h d session (line :: rest) =
      let output := text ++ prompt ++ action.label ++ "\n"
      match h.run action session with
      | (.error e, session) => { output, error := some e, session }
      | (.ok report, session) =>
        let output := output ++ onLines (Report.reportText d.format d.color report)
        if asksForLetter report then (serveLetter h d session rest).after output
        else (Menu.serve h d session rest).after output := by
  rw [Menu.serve, hkey]
  generalize h.run = run
  cases action <;> first | exact absurd rfl hquit | rfl

theorem read_action {session : Session} (hkey : Action.ofKey? line = some action)
    (hquit : action ≠ .quit) :
    State.read h (.atMain session) line =
      match h.run action session with
      | (.error e, session) => .ended (some e) session
      | (.ok _, session) =>
        if asksLetter h action then .atLetter session else .atMain session := by
  rw [State.read, hkey]
  generalize h.run = run
  cases action <;> first | exact absurd rfl hquit | rfl

theorem selections_action (hkey : Action.ofKey? line = some action) (hquit : action ≠ .quit)
    (rest : List String) :
    selections h false (line :: rest) = action :: selections h (asksLetter h action) rest := by
  rw [selections, hkey]
  cases action <;> first | exact absurd rfl hquit | rfl

end

namespace State

def serve (h : Harness) (d : Display) : State → List String → Transcript
  | atMain session, lines => Menu.serve h d session lines
  | atLetter session, lines => serveLetter h d session lines
  | ended error session, _ => { output := "", error, session }

theorem serve_nil (h : Harness) (d : Display) (state : State) :
    ((state.serve h d []).error, (state.serve h d []).session) = state.result := by
  cases state <;> rfl

theorem serve_cons (h : Harness) (d : Display) (state : State) (line : String) :
    ∃ output, ∀ rest,
      state.serve h d (line :: rest) = ((state.read h line).serve h d rest).after output := by
  cases state with
  | ended error session =>
      exact ⟨"", fun rest => (Transcript.after_empty _).symm⟩
  | atLetter session => exact ⟨prompt ++ fixtureAnswer h d line, fun rest => rfl⟩
  | atMain session =>
      cases hkey : Action.ofKey? line with
      | none =>
          refine ⟨text ++ prompt ++ rejection, ?_⟩
          intro rest
          rw [serve, Menu.serve, read, hkey]
          rfl
      | some action =>
          by_cases hquit : action = .quit
          · subst hquit
            refine ⟨text ++ prompt, ?_⟩
            intro rest
            rw [serve, Menu.serve, read, hkey]
            simp [serve, Transcript.after, Transcript.finished]
          · rw [read_action hkey hquit]
            cases hrun : h.run action session with
            | mk r session' =>
                cases r with
                | error e =>
                    refine ⟨text ++ prompt ++ action.label ++ "\n", ?_⟩
                    intro rest
                    rw [serve, serve_action hkey hquit, hrun]
                    simp [serve, Transcript.after]
                | ok report =>
                    refine ⟨text ++ prompt ++ action.label ++ "\n" ++
                      onLines (Report.reportText d.format d.color report), ?_⟩
                    intro rest
                    rw [serve, serve_action hkey hquit, hrun]
                    dsimp only
                    rw [asksForLetter_eq hrun]
                    split <;> rfl

/-! ## All lines -/

theorem readAll_cons (h : Harness) (state : State) (line : String) (rest : List String) :
    state.readAll h (line :: rest) = (state.read h line).readAll h rest := rfl

theorem readAll_ended (h : Harness) (error : Option Harness.Error) (session : Session)
    (lines : List String) : (ended error session).readAll h lines = ended error session := by
  induction lines with
  | nil => rfl
  | cons line rest ih => exact ih

theorem readAll_append (h : Harness) (state : State) (front back : List String) :
    state.readAll h (front ++ back) = (state.readAll h front).readAll h back :=
  List.foldl_append

theorem readAll_quit {h : Harness} {state : State} {front : List String} {left : Session}
    (hfront : state.readAll h front = atMain left) {line : String}
    (hquit : Text.trim line = "q" ∨ Text.trim line = "quit") :
    state.readAll h (front ++ [line]) = ended none left := by
  rw [readAll_append, hfront, readAll_cons, read, ofKey?_eq_quit_iff.mpr hquit]
  rfl

theorem serve_result (h : Harness) (d : Display) (state : State) (lines : List String) :
    ((state.serve h d lines).error, (state.serve h d lines).session) =
      (state.readAll h lines).result := by
  induction lines generalizing state with
  | nil => exact serve_nil h d state
  | cons line rest ih =>
      obtain ⟨output, houtput⟩ := serve_cons h d state line
      rw [houtput, readAll_cons, ← ih]
      rfl

theorem serve_front (h : Harness) (d : Display) (state : State) (front : List String) :
    ∃ output, ∀ rest,
      state.serve h d (front ++ rest) = ((state.readAll h front).serve h d rest).after output := by
  induction front generalizing state with
  | nil => exact ⟨"", fun rest => (Transcript.after_empty _).symm⟩
  | cons line front ih =>
      obtain ⟨answer, hanswer⟩ := serve_cons h d state line
      obtain ⟨output, houtput⟩ := ih (state.read h line)
      refine ⟨answer ++ output, fun rest => ?_⟩
      rw [List.cons_append, hanswer, houtput, Transcript.after_after, readAll_cons]

/-- What follows the line that ends a dialogue is not looked at. -/
theorem serve_append {h : Harness} (d : Display) {state : State} {front : List String}
    (hended : (state.readAll h front).isEnded = true) (rest : List String) :
    state.serve h d (front ++ rest) = state.serve h d front := by
  obtain ⟨output, houtput⟩ := serve_front h d state front
  have hfront := houtput []
  rw [List.append_nil] at hfront
  rw [houtput, hfront]
  cases hstate : state.readAll h front with
  | ended error session => rfl
  | atMain session | atLetter session => simp [hstate, isEnded] at hended

theorem readAll_selections (h : Harness) (lines : List String) (session : Session) :
    ((atMain session).readAll h lines).result = runActions h (selections h false lines) session ∧
      ((atLetter session).readAll h lines).result =
        runActions h (selections h true lines) session := by
  induction lines generalizing session with
  | nil => exact ⟨rfl, rfl⟩
  | cons line rest ih =>
      refine ⟨?_, (ih session).1⟩
      rw [readAll_cons]
      cases hkey : Action.ofKey? line with
      | none =>
          rw [read, selections, hkey]
          exact (ih session).1
      | some action =>
          by_cases hquit : action = .quit
          · subst hquit
            rw [read, selections, hkey]
            dsimp only
            rw [readAll_ended]
            rfl
          · rw [read_action hkey hquit, selections_action hkey hquit, runActions]
            cases hrun : h.run action session with
            | mk r session' =>
                cases r with
                | error e => rw [readAll_ended]; rfl
                | ok report =>
                    dsimp only
                    cases asksLetter h action with
                    | false => exact (ih session').1
                    | true => exact (ih session').2

/-- A line that ends a dialogue stands at the main prompt, and either quits or selects an action
that fails. -/
theorem read_eq_ended {h : Harness} {state : State} {line : String} {error : Option Harness.Error}
    {left : Session} (hstate : state.isEnded = false) (hread : state.read h line = ended error left) :
    ∃ session, state = atMain session ∧
      ((Action.ofKey? line = some .quit ∧ error = none ∧ left = session) ∨
        ∃ action e, Action.ofKey? line = some action ∧ h.run action session = (.error e, left) ∧
          error = some e) := by
  cases state with
  | ended error session => simp [isEnded] at hstate
  | atLetter session => simp [read] at hread
  | atMain session =>
      refine ⟨session, rfl, ?_⟩
      cases hkey : Action.ofKey? line with
      | none =>
          rw [read, hkey] at hread
          simp at hread
      | some action =>
          by_cases hquit : action = .quit
          · subst hquit
            rw [read, hkey] at hread
            obtain ⟨herror, hleft⟩ := State.ended.inj hread
            exact .inl ⟨rfl, herror.symm, hleft.symm⟩
          · rw [read_action hkey hquit] at hread
            cases hrun : h.run action session with
            | mk r session' =>
                rw [hrun] at hread
                cases r with
                | error e =>
                    obtain ⟨herror, hleft⟩ := State.ended.inj hread
                    subst hleft
                    exact .inr ⟨action, e, rfl, hrun, herror.symm⟩
                | ok report =>
                    dsimp only at hread
                    split at hread <;> simp at hread

theorem exists_ending_line {h : Harness} {state : State} {lines : List String}
    {error : Option Harness.Error} {left : Session} (hstate : state.isEnded = false)
    (hended : state.readAll h lines = ended error left) :
    ∃ front line back, lines = front ++ line :: back ∧
      (state.readAll h front).isEnded = false ∧
      (state.readAll h front).read h line = ended error left := by
  induction lines generalizing state with
  | nil =>
      rw [show state = ended error left from hended] at hstate
      simp [isEnded] at hstate
  | cons line rest ih =>
      rw [readAll_cons] at hended
      cases hread : state.read h line with
      | ended error' left' =>
          rw [hread, readAll_ended] at hended
          exact ⟨[], line, rest, rfl, hstate, hread.trans hended⟩
      | atMain session | atLetter session =>
          obtain ⟨front, last, back, hlines, hfront, hlast⟩ := ih (by rw [hread]; rfl) hended
          exact ⟨line :: front, last, back, congrArg (line :: ·) hlines, hfront, hlast⟩

end State

/-- How a dialogue ends: at the first line that quits, at the first that selects an action which
fails, or with the input. -/
inductive Ending (h : Harness) (session : Session) (lines : List String) (t : Transcript) : Prop
  | quit (front : List String) (line : String) (back : List String)
      (hlines : lines = front ++ line :: back)
      (hfront : (State.atMain session).readAll h front = .atMain t.session)
      (hline : Text.trim line = "q" ∨ Text.trim line = "quit") (herror : t.error = none)
  | failed (front : List String) (line : String) (back : List String) (before : Session)
      (action : Action) (e : Harness.Error) (hlines : lines = front ++ line :: back)
      (hfront : (State.atMain session).readAll h front = .atMain before)
      (hkey : Action.ofKey? line = some action)
      (hrun : h.run action before = (.error e, t.session)) (herror : t.error = some e)
  | endOfInput
      (hlines : (State.atMain session).readAll h lines = .atMain t.session ∨
        (State.atMain session).readAll h lines = .atLetter t.session)
      (herror : t.error = none)

theorem ending_of_result {h : Harness} {session : Session} {lines : List String} {t : Transcript}
    (ht : (t.error, t.session) = ((State.atMain session).readAll h lines).result) :
    Ending h session lines t := by
  obtain ⟨herror, hsession⟩ := Prod.ext_iff.mp ht
  dsimp only at herror hsession
  cases hall : (State.atMain session).readAll h lines with
  | atMain left =>
      rw [hall] at herror hsession
      exact .endOfInput (.inl (hall.trans (congrArg State.atMain hsession.symm))) herror
  | atLetter left =>
      rw [hall] at herror hsession
      exact .endOfInput (.inr (hall.trans (congrArg State.atLetter hsession.symm))) herror
  | ended error left =>
      rw [hall] at herror hsession
      obtain ⟨front, line, back, hlines, hfront, hline⟩ := State.exists_ending_line rfl hall
      obtain ⟨before, hbefore, hcases⟩ := State.read_eq_ended hfront hline
      rcases hcases with ⟨hkey, hnone, hleft⟩ | ⟨action, e, hkey, hrun, hsome⟩
      · refine .quit front line back hlines ?_ (ofKey?_eq_quit_iff.mp hkey) (herror.trans hnone)
        rw [hbefore, ← hleft, hsession]
        rfl
      · refine .failed front line back before action e hlines hbefore hkey ?_ (herror.trans hsome)
        rw [hrun, hsession]
        rfl

theorem run_result (h : Harness) (d : Display) (session : Session) (input : String) :
    ((run h d session input).error, (run h d session input).session) =
      runActions h (selections h false (lines input)) session := by
  have hresult := State.serve_result h d (.atMain session) (lines input)
  rw [(State.readAll_selections h (lines input) session).1] at hresult
  exact hresult

/-- A whole dialogue. It does what the selected actions do in order, ends in one of three ways, with
the first line that quits at the main prompt in any case, and is the same for each input that begins
with the lines up to its end. -/
theorem run_refines (h : Harness) (d : Display) (session : Session) (input : String) :
    let t := run h d session input
    (t.error, t.session) = runActions h (selections h false (lines input)) session ∧
      Ending h session (lines input) t ∧
      (∀ front line left, front ++ [line] <+: lines input →
        (State.atMain session).readAll h front = .atMain left →
        Text.trim line = "q" ∨ Text.trim line = "quit" → t.error = none ∧ t.session = left) ∧
      ∀ front, ((State.atMain session).readAll h front).isEnded = true → front <+: lines input →
        ∀ input', front <+: lines input' → run h d session input' = t := by
  intro t
  have hresult : (t.error, t.session) =
      ((State.atMain session).readAll h (lines input)).result :=
    State.serve_result h d (.atMain session) (lines input)
  refine ⟨hresult.trans (State.readAll_selections h (lines input) session).1,
    ending_of_result hresult, ?quits, ?_⟩
  case quits =>
    rintro front line left ⟨back, hback⟩ hfront hquit
    rw [← hback, State.readAll_append, State.readAll_quit hfront hquit, State.readAll_ended]
      at hresult
    exact Prod.ext_iff.mp hresult
  rintro front hended ⟨back, hback⟩ input' ⟨back', hback'⟩
  have hserve := State.serve_append d hended back
  have hserve' := State.serve_append d hended back'
  rw [hback] at hserve
  rw [hback'] at hserve'
  have hsame : serve h d session (lines input') = serve h d session (lines input) :=
    hserve'.trans hserve.symm
  exact congrArg (Transcript.after (String.join (h.fixtures.names.map (· ++ "\n")))) hsame

/-- With a fixture to choose, the line after `13` is a letter, even if it reads `q`. -/
example :
    let h : Harness := { fixtures := .ofList [("voice", "[]")], node := 1, table := 0 }
    let session := Harness.connect .standard .unreachable
    lines "13\nq\n 13 \n\nquit\n7" = ["13", "q", " 13 ", "", "quit", "7"] ∧
      selections h false ["13", "q", " 13 ", "", "quit", "7"] = [.printJson, .printJson] ∧
      (State.atMain session).readAll h ["13", "q", " 13 ", "", "quit", "7"] = .ended none session :=
  ⟨by decide, by decide, rfl⟩

end FlowConsole.Menu
