import FlowConsole.Json.Printer
import FlowConsole.Text.Blank
/-!
Identifiers in loosely typed records.

Node and CMTS ids are numbers, numeric strings, or numeric strings after a colon such as
`openflow:3`. A flow id names a path segment and may be any string.
-/
namespace FlowConsole.Record

open Json Text

/-- The part of a text after its last colon; all of it if there is none. -/
def afterLastColon (s : List Char) : List Char :=
  (s.reverse.takeWhile (· != ':')).reverse

def natOfDigits? (ds : List Char) : Option Nat :=
  if ds.isEmpty then none
  else if ds.all Char.isDigit then some (ds.foldl (fun n c => n * 10 + (c.toNat - 48)) 0)
  else none

/-- A number below `bound`, in decimal digits after an optional plus sign. -/
def boundedNat? (bound : Nat) (s : List Char) : Option Nat :=
  let digits := match s with
    | '+' :: rest => rest
    | s => s
  (natOfDigits? digits).filter (· < bound)

/-- Reads `3`, `"3"` and `"openflow:3"` as `3`. -/
def numericId? : Value → Option Nat
  | .number n => n.toNat?
  | .string s => boundedNat? 0x10000000000000000 (trimChars (afterLastColon s.toList))
  | _ => none

/-- A flow id as a path segment: the text of a natural number, or a string without the blanks around
it. -/
def segmentId? : Value → Option String
  | .number n => if n.toNat?.isSome then some (String.ofList n.text) else none
  | .string s => if isBlankText s then none else some (trim s)
  | _ => none

end FlowConsole.Record
