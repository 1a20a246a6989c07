import FlowConsole.Decimal.Binary64
/-!
The fewest decimal digits that read back as a given binary64 number, the nearest such digits if
there are several.

A decimal reads back when it lies in the interval of reals that round to the number; the ends
belong to it exactly if the mantissa is even.
-/
namespace FlowConsole.Decimal

structure Scientific where
  digits : Nat
  exponent : Int
deriving DecidableEq, Repr, Inhabited

namespace Binary64

def compareDecimal (a : Nat) (e : Int) (num den : Nat) : Ordering :=
  if e < 0 then compare (a * den) (num * Nat.pow 10 (-e).toNat)
  else compare (a * Nat.pow 10 e.toNat * den) num

/-- Whether `a * 10 ^ e` rounds to the magnitude of `x`. The interval is asymmetric below a power
of two, where the spacing halves. -/
def readsBack (x : Binary64) (a : Nat) (e : Int) : Bool :=
  let below := if x.mantissa = 0x10000000000000 ∧ x.exponent > minExponent then 1 else 2
  let unit := { x with mantissa := 1 }.ratio
  let low := compareDecimal a e ((4 * x.mantissa - below) * unit.1) (4 * unit.2)
  let high := compareDecimal a e ((4 * x.mantissa + 2) * unit.1) (4 * unit.2)
  if x.mantissa % 2 = 0 then low != .lt && high != .gt else low == .gt && high == .lt

/-- How many digits stand before the point; not positive for numbers below one tenth. -/
def pointPosition (x : Binary64) : Int :=
  let scale : Nat := 344
  ((Nat.toDigits 10 (x.ratio.1 * Nat.pow 10 scale / x.ratio.2)).length : Int) - scale

/-- The neighbours of `x` among the multiples of `10 ^ e`, the nearer first, that read back. -/
def candidate? (x : Binary64) (e : Int) : Option Nat :=
  let q := if e < 0 then (x.ratio.1 * Nat.pow 10 (-e).toNat, x.ratio.2)
    else (x.ratio.1, x.ratio.2 * Nat.pow 10 e.toNat)
  let low := q.1 / q.2
  let nearest := roundHalfEven q.1 q.2
  let other := if nearest = low then low + 1 else low
  if readsBack x nearest e then some nearest
  else if readsBack x other e then some other
  else none

/-- Tries ever finer decimal grids; seventeen digits always suffice. -/
def shortestFrom (x : Binary64) (point : Int) : Nat → Nat → Scientific
  | 0, n => { digits := (candidate? x (point - n)).getD 0, exponent := point - n }
  | more + 1, n =>
    match candidate? x (point - n) with
    | some a => { digits := a, exponent := point - n }
    | none => shortestFrom x point more (n + 1)

def stripZeros : Nat → Scientific → Scientific
  | 0, d => d
  | fuel + 1, d =>
    if d.digits % 10 = 0 ∧ d.digits ≠ 0 then
      stripZeros fuel { digits := d.digits / 10, exponent := d.exponent + 1 }
    else d

def shortest (x : Binary64) : Scientific :=
  if x.isZero then { digits := 0, exponent := 0 }
  else stripZeros 20 (shortestFrom x x.pointPosition 16 1)

end Binary64

/-- The digits without an exponent, with zeros on either side of the point as needed. -/
def Scientific.positional (d : Scientific) : List Char × List Char :=
  let digits := Nat.toDigits 10 d.digits
  let point : Int := digits.length + d.exponent
  if point ≤ 0 then (['0'], List.replicate (-point).toNat '0' ++ digits)
  else if d.exponent ≥ 0 then (digits ++ List.replicate d.exponent.toNat '0', [])
  else (digits.take point.toNat, digits.drop point.toNat)

/-- One digit before the point, the others after it, and the exponent that goes with that. -/
def Scientific.normalised (d : Scientific) : Char × List Char × Int :=
  let digits := Nat.toDigits 10 d.digits
  (digits.headD '0', digits.tail, digits.length + d.exponent - 1)

end FlowConsole.Decimal
