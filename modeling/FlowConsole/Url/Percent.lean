import FlowConsole.Text.Utf8
/-!
Percent-encoding, and the sets of characters that each part of a URL encodes.
-/
namespace FlowConsole.Url

open Text

/-- Characters that every part encodes: controls and whatever is not ASCII. -/
def encodedAlways (c : Char) : Bool :=
  c.toNat < 0x20 || c.toNat > 0x7E

def encodedInFragment (c : Char) : Bool :=
  encodedAlways c || c ∈ [' ', '"', '<', '>', '\x60']

/-- What a query encodes. A quote is encoded in a URL with a host-based scheme only. -/
def encodedInQuery (special : Bool) (c : Char) : Bool :=
  encodedAlways c || c ∈ [' ', '"', '#', '<', '>'] || (special && c == '\'')

def encodedInPath (c : Char) : Bool :=
  encodedInFragment c || c ∈ ['#', '?', '\x7b', '\x7d']

def encodedInUserInfo (c : Char) : Bool :=
  encodedInPath c || c ∈ ['/', ':', ';', '=', '@', '[', '\\', ']', '^', '|']

def upperHexDigit (n : Nat) : Char :=
  (Nat.digitChar (n % 16)).toUpper

def percentByte (b : UInt8) : List Char :=
  ['%', upperHexDigit (b.toNat / 16), upperHexDigit b.toNat]

def percentEncode (p : Char → Bool) (s : List Char) : List Char :=
  s.flatMap fun c => if p c then (Utf8.encode [c]).flatMap percentByte else [c]

def hexValue? (c : Char) : Option Nat :=
  if c.isDigit then some (c.toNat - 48)
  else if 'a' ≤ c ∧ c ≤ 'f' then some (c.toNat - 87)
  else if 'A' ≤ c ∧ c ≤ 'F' then some (c.toNat - 55)
  else none

/-- The bytes of a text, a percent sign with two digits standing for one byte. -/
def percentDecode : List Char → List UInt8
  | [] => []
  | '%' :: a :: b :: rest =>
    match hexValue? a, hexValue? b with
    | some x, some y => UInt8.ofNat (x * 16 + y) :: percentDecode rest
    | _, _ => Utf8.encode ['%'] ++ percentDecode (a :: b :: rest)
  | c :: rest => Utf8.encode [c] ++ percentDecode rest

end FlowConsole.Url
