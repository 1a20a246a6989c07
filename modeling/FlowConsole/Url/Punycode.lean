/-!
Punycode: any text in ASCII letters, digits and hyphens.

The characters outside ASCII are listed by code point after the last hyphen, as differences in a
mixed base whose thresholds adapt to the differences seen so far.
-/
namespace FlowConsole.Url.Punycode

def base : Nat := 36

/-- The threshold of the digit at position `k`, which lies between 1 and 26. -/
def threshold (k bias : Nat) : Nat :=
  if k ≤ bias + 1 then 1 else if k ≥ bias + 26 then 26 else k - bias

def scaleDown : Nat → Nat → Nat → Nat × Nat
  | 0, delta, k => (delta, k)
  | fuel + 1, delta, k =>
    if delta > 455 then scaleDown fuel (delta / 35) (k + base) else (delta, k)

def adapt (delta count : Nat) (first : Bool) : Nat :=
  let delta := if first then delta / 700 else delta / 2
  let r := scaleDown 20 (delta + delta / count) 0
  r.2 + 36 * r.1 / (r.1 + 38)

def digit (n : Nat) : Char :=
  if n < 26 then Char.ofNat (97 + n) else Char.ofNat (48 + (n - 26))

def digitValue? (c : Char) : Option Nat :=
  if c.isDigit then some (c.toNat - 48 + 26)
  else if 'a' ≤ c ∧ c ≤ 'z' then some (c.toNat - 97)
  else if 'A' ≤ c ∧ c ≤ 'Z' then some (c.toNat - 65)
  else none

def encodeDelta (bias : Nat) : Nat → Nat → Nat → List Char
  | 0, _, _ => []
  | fuel + 1, q, k =>
    let t := threshold k bias
    if q < t then [digit q]
    else digit (t + (q - t) % (base - t)) :: encodeDelta bias fuel ((q - t) / (base - t)) (k + base)

/-- Where an encoder stands: the next code point, the difference so far, the bias, and how many
characters have been written. -/
structure State where
  next : Nat
  delta : Nat
  bias : Nat
  done : Nat

/-- Walks the text once for the code point `n`, writing the difference at each place where it
stands. -/
def encodePass (s : List Char) (n basic : Nat) (st : State) : State × List Char :=
  s.foldl (fun acc c =>
    if c.toNat < n then ({ acc.1 with delta := acc.1.delta + 1 }, acc.2)
    else if c.toNat = n then
      let digits := encodeDelta acc.1.bias 20 acc.1.delta base
      ({ acc.1 with
          delta := 0
          bias := adapt acc.1.delta (acc.1.done + 1) (acc.1.done == basic)
          done := acc.1.done + 1 }, acc.2 ++ digits)
    else acc) (st, [])

/-- One pass for each code point outside ASCII, in ascending order. -/
def encodeFrom (s : List Char) (basic : Nat) : Nat → State → List Char
  | 0, _ => []
  | fuel + 1, st =>
    match (s.filter fun c => st.next ≤ c.toNat).map Char.toNat |>.min? with
    | none => []
    | some n =>
      let r := encodePass s n basic
        { st with next := n, delta := st.delta + (n - st.next) * (st.done + 1) }
      r.2 ++ encodeFrom s basic fuel { r.1 with next := n + 1, delta := r.1.delta + 1 }

def encode (s : List Char) : List Char :=
  let basic := s.filter fun c => c.toNat < 0x80
  let start := { next := 0x80, delta := 0, bias := 72, done := basic.length : State }
  (if basic.isEmpty then [] else basic ++ ['-']) ++ encodeFrom s basic.length s.length start

def decodeDelta (bias : Nat) : List Char → Nat → Nat → Nat → Option (Nat × List Char)
  | [], _, _, _ => none
  | c :: rest, i, w, k =>
    match digitValue? c with
    | none => none
    | some d =>
      let t := threshold k bias
      let i := i + d * w
      if i ≥ 0x100000000 then none
      else if d < t then some (i, rest)
      else decodeDelta bias rest i (w * (base - t)) (k + base)

/-- Puts the characters that the differences stand for into the text. -/
def decodeFrom : Nat → List Char → List Char → (n i bias : Nat) → Option (List Char)
  | 0, _, _, _, _, _ => none
  | fuel + 1, out, s, n, i, bias =>
    if s.isEmpty then some out
    else
      match decodeDelta bias s i 1 base with
      | none => none
      | some (j, rest) =>
        let count := out.length + 1
        let n := n + j / count
        let place := j % count
        if n > 0x10FFFF ∨ (0xD800 ≤ n ∧ n ≤ 0xDFFF) then none
        else
          decodeFrom fuel (out.take place ++ Char.ofNat n :: out.drop place) rest n (place + 1)
            (adapt (j - i) count (i == 0))

def decode? (s : List Char) : Option (List Char) :=
  let back := s.reverse.takeWhile (· != '-')
  let tail := if back.length = s.length then s else back.reverse
  let basic := if back.length = s.length then [] else s.take (s.length - back.length - 1)
  if basic.all fun c => c.toNat < 0x80 then decodeFrom (s.length + 1) basic tail 0x80 0 72
  else none

end FlowConsole.Url.Punycode
