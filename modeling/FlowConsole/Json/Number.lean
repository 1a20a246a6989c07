import FlowConsole.Decimal.Shortest
/-!
JSON numbers and their text.

An integer that fits 64 bits, signed or unsigned, stays an integer; every other number is a
binary64 number.
-/
namespace FlowConsole.Json

open Decimal

/-- A number as JSON values hold it. Integers lie between `-2 ^ 63` and `2 ^ 64 - 1`. -/
inductive Number
  | integer (value : Int)
  | float (value : Binary64)
deriving DecidableEq, Repr, Inhabited

namespace Number

def ofNat (n : Nat) : Number := .integer n

def toNat? : Number → Option Nat
  | .integer n => if 0 ≤ n ∧ n < 0x10000000000000000 then some n.toNat else none
  | .float _ => none

def integerText (n : Int) : List Char :=
  if n < 0 then '-' :: Nat.toDigits 10 n.natAbs else Nat.toDigits 10 n.natAbs

/-- Which decimals are written with an exponent: those of at least `10 ^ 16` and those below
`10 ^ -5`. -/
def usesExponent (d : Scientific) : Bool :=
  let point : Int := (Nat.toDigits 10 d.digits).length + d.exponent
  decide (d.digits ≠ 0 ∧ (point ≤ -5 ∨ point > 16))

/-- A float has a point or an exponent, so that it never looks like an integer. The exponent always
carries its sign. -/
def floatText (x : Binary64) : List Char :=
  let d := x.shortest
  let sign := if x.negative then ['-'] else []
  if usesExponent d then
    let n := d.normalised
    let fraction := if n.2.1.isEmpty then [] else '.' :: n.2.1
    let exponent := if n.2.2 < 0 then integerText n.2.2 else '+' :: integerText n.2.2
    sign ++ n.1 :: fraction ++ 'e' :: exponent
  else
    let p := d.positional
    sign ++ p.1 ++ '.' :: (if p.2.isEmpty then ['0'] else p.2)

def text : Number → List Char
  | .integer n => integerText n
  | .float x => floatText x

end Number

end FlowConsole.Json
