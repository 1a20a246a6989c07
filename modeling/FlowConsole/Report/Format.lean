import FlowConsole.Harness.Basic
import FlowConsole.Json.Printer
/-!
The formats of output, and the JSON form of whatever is reported.

The members of a report stand in the order in which they are declared, not in that of their keys.
-/
namespace FlowConsole.Report

open Json (Value)
open Record (FlowCounter FlowKey SwitchCounters)
open Restconf (Outcome Removal)

inductive Format
  | table
  | json
  | compact
deriving DecidableEq, Repr

namespace Format

def all : List Format := [.table, .json, .compact]

def name : Format → String
  | .table => "table"
  | .json => "json"
  | .compact => "json-compact"

def ofName? (s : String) : Option Format :=
  all.find? fun f => f.name == s

/-- A value as text: on one line in the compact format, else indented. -/
def jsonText (f : Format) (v : Value) : String :=
  match f with
  | .compact => v.compact
  | _ => v.pretty

def sortedText (f : Format) (v : Value) : String :=
  match f with
  | .compact => v.compact
  | _ => v.show

end Format

def outcomeJson (o : Outcome) : Value :=
  .object [("status", .ofNat o.status), ("reason", .string o.reason),
    ("explanation", .ofString? o.explanation), ("body", .string o.body)]

def flowKeyJson (k : FlowKey) : Value :=
  .object [("node", .ofNat k.node), ("table", .ofNat k.table), ("id", .string k.id),
    ("name", .ofString? k.name)]

def removalJson (r : Removal) : Value :=
  .object [("key", flowKeyJson r.key), ("outcome", outcomeJson r.outcome)]

def counterJson (c : FlowCounter) : Value :=
  .object [("count", .ofNat c.count), ("action", .string c.action), ("port", .string c.port),
    ("dest_ip", .string c.destination)]

def switchJson (s : SwitchCounters) : Value :=
  .object [("switch_id", .string s.switch), ("rows", .array (s.flows.map counterJson))]

def kindMembers : Fixture.Kind → List (String × Value)
  | .cmts address => [("kind", .string "cmts"), ("address", .string address)]
  | .flow name => [("kind", .string "flow"), ("name", .string name)]
  | .invalid => [("kind", .string "invalid")]

/-- The JSON form of an entry. Its kind is spread out beside its letter and name, so the name of a
flow stands under `name` as well, after that of the fixture. -/
def entryJson (e : Fixture.Entry) : Value :=
  .object ([("letter", .string e.letter), ("name", .string e.name)] ++ kindMembers e.kind)

end FlowConsole.Report
