import FlowConsole.Record.Key
/-!
Flow counters by switch, out of a loosely typed report.
-/
namespace FlowConsole.Record

open Json

structure FlowCounter where
  count : Nat
  action : String
  port : String
  destination : String
deriving DecidableEq, Repr

structure SwitchCounters where
  switch : String
  flows : List FlowCounter
deriving DecidableEq, Repr

/-- A member as text: nothing for `null`, a string as it is, anything else as compact JSON. -/
def textOf : Value → String
  | .string s => s
  | .null => ""
  | v => v.compact

/-- The action that outputs the packet: the second of a list, where the first rewrites its header,
the first of a list of one, or a single object. -/
def outputAction? : Value → Option Value
  | .array items => items[1]?.or items.head?
  | .object members => some (.object members)
  | _ => none

/-- Reads one counter. Whatever is missing is zero or empty. -/
def FlowCounter.ofReport (counter : Value) : FlowCounter :=
  let flow := counter.member "flow"
  let action := outputAction? (flow.member "actions")
  { count := (counter.member "packetCount").nat?.getD 0
    action := action.elim "" fun a => textOf (a.member "type")
    port := action.elim "" fun a => textOf ((a.member "port").member "id")
    destination := textOf ((((flow.member "match").member "matchField").item 0).member "value") }

def SwitchCounters.ofReport (switch : Value) : SwitchCounters :=
  { switch := textOf ((switch.member "node").member "id")
    flows := (((switch.get? "flowStatistic").bind Value.array?).getD []).map FlowCounter.ofReport }

/-- Reads a report: one section for each item of `flowStatistics`, in order. -/
def countersOfReport (report : Value) : List SwitchCounters :=
  (((report.get? "flowStatistics").bind Value.array?).getD []).map SwitchCounters.ofReport

end FlowConsole.Record
