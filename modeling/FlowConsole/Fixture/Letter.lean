import FlowConsole.Text.Utf8
/-!
Letters for the entries of a list: `a` to `z`, then `aa`, `ab` and so on.
-/
namespace FlowConsole.Fixture

open Text

/-- A letter on its way: the number that is still to be written, and the bytes behind it. -/
structure Spelling where
  left : Nat
  bytes : List UInt8
deriving DecidableEq, Repr

namespace Spelling

/-- Counted from one, so that a position has something to be written. -/
def start (index : Nat) : Spelling where
  left := index + 1
  bytes := []

/-- Writes the last digit in base twenty-six. There is no zero: `a` stands for one, and so one is
taken off first. -/
def write (s : Spelling) : Spelling where
  left := (s.left - 1) / 26
  bytes := ('a'.toUInt8 + UInt8.ofNat ((s.left - 1) % 26)) :: s.bytes

def finish (s : Spelling) : List UInt8 :=
  if s.left = 0 then s.bytes else s.write.finish
termination_by s.left
decreasing_by
  have hdiv := Nat.div_le_self (s.left - 1) 26
  change (s.left - 1) / 26 < s.left
  omega

end Spelling

/-- The letter of a position, counted from zero. -/
def letter (index : Nat) : String :=
  (Utf8.decode? (Spelling.start index).finish).getD ""

end FlowConsole.Fixture
