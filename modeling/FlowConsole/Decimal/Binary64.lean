/-!
Finite binary64 numbers, and rounding a quotient to the nearest of them.

A number is kept as sign, mantissa and exponent, so that every operation is exact `Nat` arithmetic
followed by one rounding. Ties go to the even mantissa.
-/
namespace FlowConsole.Decimal

/-- The number `mantissa * 2 ^ exponent`, negated if `negative`. Zero keeps its sign. -/
structure Binary64 where
  negative : Bool
  mantissa : Nat
  exponent : Int
deriving DecidableEq, Repr, Inhabited

namespace Binary64

def minExponent : Int := -1074

def maxExponent : Int := 971

def zero (negative : Bool) : Binary64 :=
  { negative, mantissa := 0, exponent := minExponent }

def isZero (x : Binary64) : Bool :=
  x.mantissa == 0

/-- `num / den` scaled by `2 ^ -exponent`, as a numerator and a denominator. -/
def scaled (num den : Nat) (exponent : Int) : Nat × Nat :=
  if exponent < 0 then (num * Nat.pow 2 (-exponent).toNat, den)
  else (num, den * Nat.pow 2 exponent.toNat)

/-- The exponent at which `num / den` has a mantissa of 53 bits, or the smallest one. -/
def exponentOf (num den : Nat) : Int :=
  let guess : Int := (num.log2 : Int) - (den.log2 : Int) - 52
  let s := scaled num den guess
  max minExponent (if s.1 / s.2 < 0x10000000000000 then guess - 1 else guess)

def roundHalfEven (num den : Nat) : Nat :=
  let q := num / den
  let r := num % den
  if 2 * r < den then q else if den < 2 * r then q + 1 else q + q % 2

/-- The number nearest to `num / den`; `none` if that lies beyond the finite range. -/
def ofRatio? (negative : Bool) (num den : Nat) : Option Binary64 :=
  if num = 0 then some (zero negative)
  else
    let e := exponentOf num den
    let s := scaled num den e
    let m := roundHalfEven s.1 s.2
    let x : Binary64 :=
      if m = 0x20000000000000 then { negative, mantissa := 0x10000000000000, exponent := e + 1 }
      else { negative, mantissa := m, exponent := e }
    if x.exponent > maxExponent then none else some x

def ratio (x : Binary64) : Nat × Nat :=
  if x.exponent < 0 then (x.mantissa, Nat.pow 2 (-x.exponent).toNat)
  else (x.mantissa * Nat.pow 2 x.exponent.toNat, 1)

/-- The rounded product; `none` if it is too large. -/
def mul? (x y : Binary64) : Option Binary64 :=
  ofRatio? (x.negative != y.negative) (x.ratio.1 * y.ratio.1) (x.ratio.2 * y.ratio.2)

/-- The rounded quotient by a number that is not zero; `none` if it is too large. -/
def div? (x y : Binary64) : Option Binary64 :=
  ofRatio? (x.negative != y.negative) (x.ratio.1 * y.ratio.2) (x.ratio.2 * y.ratio.1)

def ofDecimal? (negative : Bool) (digits : Nat) (exponent : Int) : Option Binary64 :=
  if digits = 0 then some (zero negative)
  else if exponent > 400 then none
  else if exponent < 0 then ofRatio? negative digits (Nat.pow 10 (-exponent).toNat)
  else ofRatio? negative (digits * Nat.pow 10 exponent.toNat) 1

end Binary64

end FlowConsole.Decimal
