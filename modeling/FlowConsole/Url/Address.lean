import FlowConsole.Url.Percent
import FlowConsole.Url.Error
import FlowConsole.Text.Split
/-!
IPv4 and IPv6 addresses as hosts.

An IPv4 address may have one to four parts, each decimal, octal after `0` or hexadecimal after
`0x`; the last part fills the bytes that are left. An IPv6 address is written with its longest run
of zero pieces left out.
-/
namespace FlowConsole.Url

open Text

def digitsValue? (base : Nat) (s : List Char) : Option Nat :=
  s.foldlM (fun n c => (hexValue? c).bind fun d => if d < base then some (n * base + d) else none) 0

/-- One part of an IPv4 address: its base is told by how it begins, and no digits after `0x` mean
zero. -/
def ipv4Number? (s : List Char) : Option Nat :=
  match s with
  | [] => none
  | '0' :: 'x' :: rest => digitsValue? 16 rest
  | '0' :: 'X' :: rest => digitsValue? 16 rest
  | '0' :: d :: rest => digitsValue? 8 (d :: rest)
  | s => digitsValue? 10 s

/-- Whether a name must be an IPv4 address: its last part, a dot at the end apart, is a number. -/
def endsInNumber (s : List Char) : Bool :=
  let last := match (splitOn '.' s).reverse with
    | [] :: last :: _ => last
    | last :: _ => last
    | [] => []
  (!last.isEmpty && last.all Char.isDigit) || (ipv4Number? last).isSome

def ipv4OfText? (s : List Char) : Option Nat := do
  let parts := match (splitOn '.' s).reverse with
    | [] :: rest => rest
    | parts => parts
  if parts.length > 4 then none
  else
    match ← parts.mapM ipv4Number? with
    | [] => none
    | last :: front =>
      if last < Nat.pow 256 (4 - front.length) ∧ front.all (· < 256) then
        some (front.foldr (fun n acc => acc * 256 + n) 0 * Nat.pow 256 (4 - front.length) + last)
      else none

def ipv4Text (address : Nat) : String :=
  s!"{address / 16777216 % 256}.{address / 65536 % 256}.{address / 256 % 256}.{address % 256}"

def ipv6Piece? (s : List Char) : Option Nat :=
  if s.isEmpty ∨ s.length > 4 then none else digitsValue? 16 s

/-- The decimal parts of an IPv4 address within an IPv6 address: four of them, none with a zero in
front. -/
def embeddedIpv4? (s : List Char) : Option (List Nat) := do
  let parts := splitOn '.' s
  if parts.length ≠ 4 then none
  else
    let ns ← parts.mapM fun part =>
      if part.isEmpty ∨ part.length > 3 ∨ (part.length > 1 ∧ part.head? = some '0') then none
      else (digitsValue? 10 part).filter (· < 256)
    match ns with
    | [a, b, c, d] => some [a * 256 + b, c * 256 + d]
    | _ => none

/-- The pieces on one side of `::`. Only the last may be an IPv4 address, and only where `tail`
says that nothing follows. -/
def ipv6Pieces? (tail : Bool) : List (List Char) → Option (List Nat)
  | [] => some []
  | [last] => (ipv6Piece? last).map (fun n => [n]) |>.or (if tail then embeddedIpv4? last else none)
  | part :: rest => do
    let n ← ipv6Piece? part
    let ns ← ipv6Pieces? tail rest
    some (n :: ns)

def splitGap : List Char → Option (List Char × List Char)
  | ':' :: ':' :: rest => some ([], rest)
  | c :: rest => (splitGap rest).map fun p => (c :: p.1, p.2)
  | [] => none

def ipv6Side? (tail : Bool) (s : List Char) : Option (List Nat) :=
  if s.isEmpty then some [] else ipv6Pieces? tail (splitOn ':' s)

def ipv6OfText? (s : List Char) : Option (List Nat) :=
  match splitGap s with
  | none => (ipv6Side? true s).filter fun ns => ns.length = 8 && !s.isEmpty
  | some (front, back) => do
    let a ← ipv6Side? false front
    let b ← ipv6Side? true back
    if a.length + b.length ≤ 7 then some (a ++ List.replicate (8 - a.length - b.length) 0 ++ b)
    else none

def zeroRun (ns : List Nat) : Nat :=
  (ns.takeWhile (· == 0)).length

/-- Start and length of the longest run of zero pieces, the first of them if several. -/
def longestZeroRun (ns : List Nat) : Nat × Nat :=
  (List.range ns.length).foldl (fun best i =>
    let n := zeroRun (ns.drop i)
    if n > best.2 then (i, n) else best) (0, 0)

def piecesText (ns : List Nat) : List Char :=
  List.intercalate [':'] (ns.map (Nat.toDigits 16))

def ipv6Text (ns : List Nat) : String :=
  let run := longestZeroRun ns
  if run.2 < 2 then String.ofList (piecesText ns)
  else
    String.ofList (piecesText (ns.take run.1) ++ [':', ':'] ++ piecesText (ns.drop (run.1 + run.2)))

end FlowConsole.Url
