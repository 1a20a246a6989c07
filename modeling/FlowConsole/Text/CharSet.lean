import FlowConsole.Text.Split
/-!
Sets of characters given by ranges of code points.

Tables of Unicode properties are written as lines such as `0-1f 7f-a0 ad`: code points in
hexadecimal, ascending, a hyphen between the ends of a range.
-/
namespace FlowConsole.Text

/-- Ranges of code points, both ends included. -/
structure CharSet where
  ranges : List (Nat × Nat)

namespace CharSet

def contains (s : CharSet) (c : Char) : Bool :=
  s.ranges.any fun r => r.1 ≤ c.toNat && c.toNat ≤ r.2

def digitValue (c : Char) : Nat :=
  if c.isDigit then c.toNat - 48 else c.toNat - 87

def hexNat (s : List Char) : Nat :=
  s.foldl (fun n c => n * 16 + digitValue c) 0

def rangeOf (word : List Char) : Nat × Nat :=
  let low := word.takeWhile (· != '-')
  let high := (word.dropWhile (· != '-')).drop 1
  (hexNat low, if high.isEmpty then hexNat low else hexNat high)

def words (lines : List String) : List (List Char) :=
  (lines.flatMap fun line => splitOn ' ' line.toList).filter fun word => !word.isEmpty

def ofTable (lines : List String) : CharSet :=
  { ranges := (words lines).map rangeOf }

end CharSet

end FlowConsole.Text
