import FlowConsole.Report.Text
/-!
The interactive menu: one selection a line, until `q`, `quit` or the end of the input.

Each action is done before the next prompt. An action that fails ends the session. After a catalogue
that is not empty the next line chooses a fixture by its letter.
-/
namespace FlowConsole.Menu

open Restconf (Session)

def ruleWidth : Nat := 30

/-- A line of the menu: the key with a dot, filled up to four columns, and the label. -/
def actionLine (a : Action) : String :=
  let key := a.key ++ "."
  String.ofList (key.toList ++ List.replicate (4 - key.length) ' ') ++ a.label ++ "\n"

def text : String :=
  let rule := String.ofList (List.replicate ruleWidth '-') ++ "\n"
  rule ++ "   CABLEFLOW\n" ++ rule ++ String.join (Action.all.map actionLine)

def prompt : String := "Enter selection: "

def rejection : String := "Invalid option!\n"

structure Display where
  format : Report.Format
  color : Bool
deriving DecidableEq, Repr

/-- A session that has ended: what it printed, the error that ended it, and the state it left. -/
structure Transcript where
  output : String
  error : Option Harness.Error
  session : Session

namespace Transcript

def after (output : String) (t : Transcript) : Transcript :=
  { t with output := output ++ t.output }

def finished (output : String) (session : Session) : Transcript :=
  { output, error := none, session }

end Transcript

/-- The lines of an input, without their ends. A last line may lack one. -/
def lines (input : String) : List String :=
  let parts := Text.splitOn '\n' input.toList
  ((if parts.getLast? = some [] then parts.dropLast else parts)).map String.ofList

/-- Text on lines of its own; none for the empty text. -/
def onLines (s : String) : String :=
  if s.isEmpty then "" else s ++ "\n"

def fixtureAnswer (h : Harness) (d : Display) (letter : String) : String :=
  match h.fixtures.select? letter with
  | some f => Report.fixtureText d.format f.2 ++ "\n"
  | none => rejection

def asksForLetter : Harness.Report → Bool
  | .catalogue entries => !entries.isEmpty
  | _ => false

mutual

def serve (h : Harness) (d : Display) (session : Session) : List String → Transcript
  | [] => .finished (text ++ prompt ++ "\n") session
  | line :: rest =>
    match Action.ofKey? line with
    | none => (serve h d session rest).after (text ++ prompt ++ rejection)
    | some .quit => .finished (text ++ prompt) session
    | some action =>
      let output := text ++ prompt ++ action.label ++ "\n"
      match h.run action session with
      | (.error e, session) => { output, error := some e, session }
      | (.ok report, session) =>
        let output := output ++ onLines (Report.reportText d.format d.color report)
        if asksForLetter report then (serveLetter h d session rest).after output
        else (serve h d session rest).after output

def serveLetter (h : Harness) (d : Display) (session : Session) : List String → Transcript
  | [] => .finished (prompt ++ "\n") session
  | line :: rest => (serve h d session rest).after (prompt ++ fixtureAnswer h d line)

end

/-- A whole session: the names of the fixtures, then the menu. -/
def run (h : Harness) (d : Display) (session : Session) (input : String) : Transcript :=
  (serve h d session (lines input)).after (String.join (h.fixtures.names.map (· ++ "\n")))

end FlowConsole.Menu
