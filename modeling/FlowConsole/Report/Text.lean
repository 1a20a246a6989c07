import FlowConsole.Report.Format
import FlowConsole.Report.Table
/-!
The text of every report, in each format.
-/
namespace FlowConsole.Report

open Json (Value)
open Record (Listing SwitchCounters)
open Restconf (Outcome Removal)

def escape : String := "\x1b"

def green (s : String) : String := s!"{escape}[32m{s}{escape}[39m"

def red (s : String) : String := s!"{escape}[31m{s}{escape}[39m"

/-- An outcome on one line: its status, coloured by success if colours are wanted, and its
explanation. -/
def outcomeLine (color : Bool) (o : Outcome) : String :=
  let status := s!"{o.status} {o.reason}"
  let shown := if color then (if o.isSuccess then green status else red status) else status
  match o.explanation with
  | some explanation => s!"{shown} {explanation}"
  | none => shown

def joinLines (lines : List String) : String :=
  "\n".intercalate lines

def outcomeText (f : Format) (color : Bool) (o : Outcome) : String :=
  match f with
  | .table => outcomeLine color o
  | f => f.jsonText (outcomeJson o)

def outcomesText (f : Format) (color : Bool) (os : List Outcome) : String :=
  match f with
  | .table => joinLines (os.map (outcomeLine color))
  | f => f.jsonText (.array (os.map outcomeJson))

def removalLine (color : Bool) (r : Removal) : String :=
  s!"Removing {r.key.label} ... {outcomeLine color r.outcome}"

def removalsText (f : Format) (color : Bool) (rs : List Removal) : String :=
  match f with
  | .table =>
    if rs.isEmpty then "No flows to remove" else joinLines (rs.map (removalLine color))
  | f => f.jsonText (.array (rs.map removalJson))

/-- The table of a listing. A flow that cannot be addressed has neither id nor name in it. -/
def flowTable (l : Listing) : Table :=
  { header := ["Node", "Table", "ID", "Name", "Priority"]
    rows := (l.entries.zip l.flows).map fun (key, flow) =>
      [s!"openflow:{l.node}", toString l.table, key.elim "" (·.id), (key.bind (·.name)).getD "",
        (flow.get? "priority").elim "" Value.compact] }

/-- The text of a listing; in JSON it is the answer as it came. -/
def flowsText (f : Format) (l : Listing) : String :=
  match f with
  | .table =>
    if l.isEmpty then s!"No flows configured on openflow:{l.node} table {l.table}"
    else (flowTable l).draw
  | f => f.sortedText l.raw

def switchText (s : SwitchCounters) : String :=
  let table : Table :=
    { header := ["Count", "Action", "Port", "DestIP"]
      rows := s.flows.map fun c => [toString c.count, c.action, c.port, c.destination] }
  let body := if s.flows.isEmpty then "  none" else table.draw
  s!"Switch ID : {s.switch}\n{body}"

def statisticsText (f : Format) (ss : List SwitchCounters) : String :=
  match f with
  | .table => "\n\n".intercalate (ss.map switchText)
  | f => f.jsonText (.array (ss.map switchJson))

def entryLine (e : Fixture.Entry) : String :=
  let line := s!"{e.letter}. {e.name} - {e.kind.label}"
  match e.kind.detail? with
  | some detail => s!"{line} {detail}"
  | none => line

def noFixtures : String := "No fixtures found"

def catalogueText (f : Format) (es : List Fixture.Entry) : String :=
  match f with
  | .table =>
    if es.isEmpty then noFixtures
    else
      let table : Table :=
        { header := ["Key", "Name", "Kind", "Detail"]
          rows := es.map fun e => [e.letter, e.name, e.kind.label, e.kind.detail?.getD ""] }
      table.draw
  | f => f.jsonText (.array (es.map entryJson))

/-- The text of a fixture: JSON with its keys ascending, anything else as it is. -/
def fixtureText (f : Format) (text : String) : String :=
  match Json.parse text with
  | .ok v => f.sortedText v
  | .error _ => text

/-- The text of what an action has to show. A catalogue is shown as lines, from which a letter is
chosen. -/
def reportText (f : Format) (color : Bool) : Harness.Report → String
  | .outcome o => outcomeText f color o
  | .removals rs => removalsText f color rs
  | .topology nodes => f.sortedText nodes
  | .flows l => flowsText f l
  | .statistics ss => statisticsText f ss
  | .catalogue es => if es.isEmpty then noFixtures else joinLines (es.map entryLine)
  | .quit => ""

end FlowConsole.Report
