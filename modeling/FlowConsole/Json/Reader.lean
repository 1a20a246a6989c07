import FlowConsole.Json.Value
import FlowConsole.Json.Error
import FlowConsole.Text.Utf8
/-!
Reading JSON text.

Each reader takes the characters that are left and gives back what it read with what is left after
it. A failure keeps the characters left at that point, from which its place in the text follows.
Brackets nest at most 127 deep; the one that would go deeper is refused.
-/
namespace FlowConsole.Json

open Decimal Text

/-- A failure: what is left unread, and how many bytes of it count as seen. -/
structure Fault where
  problem : Problem
  rest : List Char
  seen : Nat
deriving Inhabited

abbrev Step (α : Type) := Except Fault (α × List Char)

def failAt {α : Type} (problem : Problem) (rest : List Char) : Except Fault α :=
  .error { problem, rest, seen := 0 }

/-- A failure noticed on looking at, or taking, the first byte of `rest`. -/
def failOn {α : Type} (problem : Problem) (rest : List Char) : Except Fault α :=
  .error { problem, rest, seen := 1 }

def isSpace (c : Char) : Bool :=
  c == ' ' || c == '\n' || c == '\t' || c == '\r'

def skipSpace (s : List Char) : List Char :=
  s.dropWhile isSpace

def digitValue (c : Char) : Nat :=
  c.toNat - 48

def natOfDigits (ds : List Char) : Nat :=
  ds.foldl (fun n c => n * 10 + digitValue c) 0

/-! ## Numbers -/

/-- Takes digits while the number stays below `2 ^ 64`; what is left starts with the digit that
would overflow, if one does. -/
def takeSignificand : Nat → List Char → Nat × List Char
  | n, [] => (n, [])
  | n, c :: rest =>
    if c.isDigit ∧ n * 10 + digitValue c < 0x10000000000000000 then
      takeSignificand (n * 10 + digitValue c) rest
    else (n, c :: rest)

def largestPower : Nat := 308

def powerOfTen (k : Nat) : Binary64 :=
  (Binary64.ofDecimal? false 1 k).getD (.zero false)

/-- `significand * 10 ^ exponent`: the significand is rounded first and then multiplied or divided
by a rounded power of ten, so the result may differ from the nearest number in its last bit. -/
def scaleByTen? (significand : Nat) (exponent : Int) : Option Binary64 := do
  let f ← Binary64.ofRatio? false significand 1
  if f.isZero then some f
  else if exponent > largestPower then none
  else if exponent ≥ 0 then f.mul? (powerOfTen exponent.toNat)
  else
    let k := (-exponent).toNat
    if k ≤ largestPower then f.div? (powerOfTen k)
    else
      let small ← f.div? (powerOfTen largestPower)
      if k ≤ 2 * largestPower then small.div? (powerOfTen (k - largestPower))
      else some (.zero false)

def floatOfParts (negative : Bool) (significand : Nat) (exponent : Int) (rest : List Char) :
    Step Number :=
  match scaleByTen? significand exponent with
  | some f => .ok (.float { f with negative }, rest)
  | none => failAt .numberOutOfRange rest

/-- The digits of an exponent, and where they leave the range of 31 bits: the exponent and what is
left, or what is left after the digit that is too much. -/
def takeExponent : Nat → List Char → Except (List Char) (Nat × List Char)
  | e, [] => .ok (e, [])
  | e, c :: rest =>
    if c.isDigit then
      if e * 10 + digitValue c < 0x80000000 then takeExponent (e * 10 + digitValue c) rest
      else .error rest
    else .ok (e, c :: rest)

/-- The part of a number after `e`. Exponents stay within 32 bits. -/
def readExponent (negative : Bool) (significand : Nat) (start : Int) (s : List Char) :
    Step Number :=
  let signed : Bool × List Char := match s with
    | '+' :: rest => (true, rest)
    | '-' :: rest => (false, rest)
    | s => (true, s)
  match signed.2 with
  | [] => failAt .eofValue []
  | c :: rest =>
    if c.isDigit then
      match takeExponent (digitValue c) rest with
      | .ok (e, rest) =>
        let exponent :=
          if signed.1 then min (start + e) 0x7fffffff else max (start - e) (-0x80000000)
        floatOfParts negative significand exponent rest
      | .error rest =>
        if significand ≠ 0 ∧ signed.1 then failAt .numberOutOfRange rest
        else .ok (.float (.zero negative), rest.dropWhile Char.isDigit)
    else failOn .invalidNumber (c :: rest)

def readFloatEnd (negative : Bool) (significand : Nat) (exponent : Int) (s : List Char) :
    Step Number :=
  match s with
  | 'e' :: rest => readExponent negative significand exponent rest
  | 'E' :: rest => readExponent negative significand exponent rest
  | s => floatOfParts negative significand exponent s

/-- The part of a number after the point. Digits that do not fit the significand are ignored. -/
def readFraction (negative : Bool) (significand : Nat) (exponent : Int) (s : List Char) :
    Step Number :=
  let taken := takeSignificand significand s
  let count : Int := s.length - taken.2.length
  match taken.2 with
  | c :: _ =>
    if c.isDigit then
      readFloatEnd negative taken.1 (exponent - count) (taken.2.dropWhile Char.isDigit)
    else if count = 0 then failOn .invalidNumber taken.2
    else readFloatEnd negative taken.1 (exponent - count) taken.2
  | [] =>
    if count = 0 then failAt .eofValue [] else readFloatEnd negative taken.1 (exponent - count) []

/-- A number whose integer part has been read; `exponent` counts the digits left out of it. -/
def readNumberEnd (negative : Bool) (significand : Nat) (s : List Char) : Step Number :=
  match s with
  | '.' :: rest => readFraction negative significand 0 rest
  | 'e' :: rest => readExponent negative significand 0 rest
  | 'E' :: rest => readExponent negative significand 0 rest
  | s =>
    if !negative then .ok (.integer significand, s)
    else if significand = 0 ∨ significand > 0x8000000000000000 then
      floatOfParts true significand 0 s
    else .ok (.integer (-significand), s)

def readUnsigned (negative : Bool) (s : List Char) : Step Number :=
  match s with
  | [] => failAt .eofValue []
  | '0' :: rest =>
    match rest with
    | c :: _ => if c.isDigit then failOn .invalidNumber rest else readNumberEnd negative 0 rest
    | [] => readNumberEnd negative 0 []
  | c :: rest =>
    if c.isDigit then
      let taken := takeSignificand 0 (c :: rest)
      let dropped := taken.2.takeWhile Char.isDigit
      if dropped.isEmpty then readNumberEnd negative taken.1 taken.2
      else
        let exponent : Int := dropped.length
        match taken.2.dropWhile Char.isDigit with
        | '.' :: rest => readFraction negative taken.1 exponent rest
        | s => readFloatEnd negative taken.1 exponent s
    else failOn .invalidNumber (c :: rest)

/-! ## Strings -/

def hexValue? (c : Char) : Option Nat :=
  if c.isDigit then some (c.toNat - 48)
  else if 'a' ≤ c ∧ c ≤ 'f' then some (c.toNat - 87)
  else if 'A' ≤ c ∧ c ≤ 'F' then some (c.toNat - 55)
  else none

def readHex (s : List Char) : Step Nat :=
  let bad : Step Nat :=
    if (Utf8.encode (s.take 4)).length < 4 then failAt .eofString []
    else .error { problem := .invalidEscape, rest := s, seen := 4 }
  match s with
  | a :: b :: c :: d :: rest =>
    match hexValue? a, hexValue? b, hexValue? c, hexValue? d with
    | some a, some b, some c, some d => .ok (((a * 16 + b) * 16 + c) * 16 + d, rest)
    | _, _, _, _ => bad
  | _ => bad

/-- The character written by `\u`, which takes a second escape if the first holds the leading half
of a pair. -/
def readUnicode (s : List Char) : Step Char :=
  match readHex s with
  | .error fault => .error fault
  | .ok (n, rest) =>
    if 0xDC00 ≤ n ∧ n ≤ 0xDFFF then failAt .loneSurrogate rest
    else if n < 0xD800 ∨ 0xDBFF < n then .ok (Char.ofNat n, rest)
    else
      match rest with
      | [] => failAt .eofString []
      | ['\\'] => failAt .eofString []
      | '\\' :: 'u' :: rest =>
        match readHex rest with
        | .error fault => .error fault
        | .ok (m, rest) =>
          if m < 0xDC00 ∨ 0xDFFF < m then failAt .loneSurrogate rest
          else .ok (Char.ofNat ((n - 0xD800) * 1024 + (m - 0xDC00) + 0x10000), rest)
      | '\\' :: rest => failOn .hexEscapeEnd rest
      | rest => failOn .hexEscapeEnd rest

def readEscape : List Char → Step Char
  | [] => failAt .eofString []
  | '"' :: rest => .ok ('"', rest)
  | '\\' :: rest => .ok ('\\', rest)
  | '/' :: rest => .ok ('/', rest)
  | 'b' :: rest => .ok ('\x08', rest)
  | 'f' :: rest => .ok ('\x0c', rest)
  | 'n' :: rest => .ok ('\n', rest)
  | 'r' :: rest => .ok ('\r', rest)
  | 't' :: rest => .ok ('\t', rest)
  | 'u' :: rest => readUnicode rest
  | rest => failOn .invalidEscape rest

def readStringBody : Nat → List Char → List Char → Step String
  | 0, _, rest => failAt .eofString rest
  | _ + 1, _, [] => failAt .eofString []
  | fuel + 1, seen, c :: rest =>
    if c = '"' then .ok (String.ofList seen.reverse, rest)
    else if c = '\\' then
      match readEscape rest with
      | .ok (e, rest) => readStringBody fuel (e :: seen) rest
      | .error fault => .error fault
    else if c.toNat < 0x20 then failOn .controlCharacter (c :: rest)
    else readStringBody fuel (c :: seen) rest

def readString (s : List Char) : Step String :=
  readStringBody (s.length + 1) [] s

/-! ## Values -/

def readWord {α : Type} (value : α) : (word : List Char) → List Char → Step α
  | [], rest => .ok (value, rest)
  | _ :: _, [] => failAt .eofValue []
  | w :: word, c :: rest =>
    if c = w then readWord value word rest else failOn .expectedIdent (c :: rest)

def readColon (s : List Char) : Except Fault (List Char) :=
  match skipSpace s with
  | [] => failAt .eofObject []
  | ':' :: rest => .ok rest
  | rest => failOn .expectedColon rest

mutual

/-- A value, blanks before it allowed. `depth` is one more than the number of brackets that may
still be opened. -/
def readValue (fuel depth : Nat) (s : List Char) : Step Value :=
  match fuel with
  | 0 => failAt .recursionLimit s
  | fuel + 1 =>
    match skipSpace s with
    | [] => failAt .eofValue []
    | 'n' :: rest => readWord .null ['u', 'l', 'l'] rest
    | 't' :: rest => readWord (.bool true) ['r', 'u', 'e'] rest
    | 'f' :: rest => readWord (.bool false) ['a', 'l', 's', 'e'] rest
    | '"' :: rest => (readString rest).map fun r => (.string r.1, r.2)
    | '-' :: rest => (readUnsigned true rest).map fun r => (.number r.1, r.2)
    | '[' :: rest =>
      if depth ≤ 1 then failOn .recursionLimit ('[' :: rest)
      else
        match skipSpace rest with
        | ']' :: rest => .ok (.array [], rest)
        | [] => failAt .eofList []
        | rest => readItems fuel (depth - 1) [] rest
    | '\x7b' :: rest =>
      if depth ≤ 1 then failOn .recursionLimit ('\x7b' :: rest)
      else
        match skipSpace rest with
        | '\x7d' :: rest => .ok (.object [], rest)
        | '"' :: rest => readMembers fuel (depth - 1) [] rest
        | [] => failAt .eofObject []
        | rest => failOn .keyNotString rest
    | c :: rest =>
      if c.isDigit then (readUnsigned false (c :: rest)).map fun r => (.number r.1, r.2)
      else failOn .expectedValue (c :: rest)

/-- The items of an array from one that must be there, those already read in reverse. -/
def readItems (fuel depth : Nat) (seen : List Value) (s : List Char) : Step Value :=
  match fuel with
  | 0 => failAt .recursionLimit s
  | fuel + 1 =>
    match readValue fuel depth s with
    | .error fault => .error fault
    | .ok (v, rest) =>
      match skipSpace rest with
      | [] => failAt .eofList []
      | ']' :: rest => .ok (.array (v :: seen).reverse, rest)
      | ',' :: rest =>
        match skipSpace rest with
        | [] => failAt .eofValue []
        | ']' :: rest => failOn .trailingComma (']' :: rest)
        | rest => readItems fuel depth (v :: seen) rest
      | rest => failOn .expectedListEnd rest

/-- The members of an object from one whose opening quote has been read. -/
def readMembers (fuel depth : Nat) (seen : List (String × Value)) (s : List Char) : Step Value :=
  match fuel with
  | 0 => failAt .recursionLimit s
  | fuel + 1 =>
    match readString s with
    | .error fault => .error fault
    | .ok (key, rest) =>
      match readColon rest with
      | .error fault => .error fault
      | .ok rest =>
        match readValue fuel depth rest with
        | .error fault => .error fault
        | .ok (v, rest) =>
          match skipSpace rest with
          | [] => failAt .eofObject []
          | '\x7d' :: rest => .ok (.object (Entries.insert key v seen), rest)
          | ',' :: rest =>
            match skipSpace rest with
            | [] => failAt .eofValue []
            | '"' :: rest => readMembers fuel depth (Entries.insert key v seen) rest
            | '\x7d' :: rest => failOn .trailingComma ('\x7d' :: rest)
            | rest => failOn .keyNotString rest
          | rest => failOn .expectedObjectEnd rest

end

def depthLimit : Nat := 128

def readAll (depth : Nat) (s : List Char) : Except Fault Value :=
  match readValue (2 * s.length + 2) depth s with
  | .error fault => .error fault
  | .ok (v, rest) =>
    match skipSpace rest with
    | [] => .ok v
    | rest => failOn .trailingCharacters rest

def Fault.locate (whole : List Char) (fault : Fault) : Error :=
  let bytes := Utf8.encode whole
  let count := bytes.length - (Utf8.encode fault.rest).length + fault.seen
  let before := bytes.take count
  let line := before.reverse.takeWhile (· != 10)
  { problem := fault.problem, line := 1 + before.count 10, column := line.length }

def parseWithin (depth : Nat) (s : String) : Except Error Value :=
  (readAll depth s.toList).mapError (Fault.locate s.toList)

def parse (s : String) : Except Error Value :=
  parseWithin depthLimit s

end FlowConsole.Json
