import FlowConsole.Config.Setting
import FlowConsole.Text.Blank
import FlowConsole.Text.Split
import FlowConsole.Toml.Scalar
/-!
Settings in environment variables.

The name of a variable gives the place of a setting, its value a small notation of its own:
`true`, numbers, `[…]`, `{key=…}`, quoted text. What is not in that notation is plain text.
-/
namespace FlowConsole

/-- Environment variables with their values, in ascending order of their names. -/
abbrev Environment := List (String × String)

namespace Environment

open Config (Layer Scalar Setting)
open Toml (Floating)

/-! ## Values -/

def isSpace (c : Char) : Bool :=
  c == ' ' || c == '\t' || c == '\n' || c == '\r' || c == '\x0c'

def skipSpace (s : List Char) : List Char :=
  s.dropWhile isSpace

/-- Characters that end a value that is not quoted. -/
def isSeparator (c : Char) : Bool :=
  c == ',' || c == '{' || c == '}' || c == '[' || c == ']'

def splitSign : List Char → Bool × List Char
  | '-' :: rest => (true, rest)
  | '+' :: rest => (false, rest)
  | s => (false, s)

/-- A number written with a point: digits on either side or on both, and perhaps an exponent. -/
def float? (s : List Char) : Option Floating :=
  let (negative, s) := splitSign s
  let whole := s.takeWhile Char.isDigit
  match s.drop whole.length with
  | '.' :: rest =>
    let fraction := rest.takeWhile Char.isDigit
    let digits := whole ++ fraction
    let number (exponent : Int) : Floating :=
      Toml.floatOf negative (Toml.natOfDigits 10 digits) (exponent - fraction.length)
    if digits.isEmpty then none
    else
      match rest.drop fraction.length with
      | [] => some (number 0)
      | c :: rest =>
        let (below, power) := splitSign rest
        if (c = 'e' ∨ c = 'E') ∧ !power.isEmpty ∧ power.all Char.isDigit then
          let n : Int := Toml.natOfDigits 10 power
          some (number (if below then -n else n))
        else none
  | _ => none

/-- A whole number of 64 bits. Those that are not negative go up to the largest unsigned one. -/
def whole? (s : List Char) : Option Scalar :=
  let (_, digits) := splitSign s
  let n := Toml.natOfDigits 10 digits
  if digits.isEmpty ∨ !digits.all Char.isDigit then none
  else if s.head? = some '-' then
    if n ≤ 0x8000000000000000 then some (.signed (-(n : Int))) else none
  else if n < 0x10000000000000000 then some (.unsigned n) else none

/-- What an unquoted value stands for. A number has a fraction only if it has a point. -/
def word (s : List Char) : Scalar :=
  let float := if s.contains '.' then float? s else none
  match float with
  | some f => .float f
  | none => (whole? s).getD (.text (String.ofList s))

/-- A text between quotes, after its opening quote; what has been read is in reverse. -/
def readQuoted? : Nat → List Char → List Char → Option (String × List Char)
  | 0, _, _ => none
  | _ + 1, _, [] => none
  | fuel + 1, seen, c :: rest =>
    if c = '"' then some (String.ofList seen.reverse, rest)
    else if c = '\\' then
      match Toml.readEscape? rest with
      | some (e, rest) => readQuoted? fuel (e :: seen) rest
      | none => none
    else readQuoted? fuel (c :: seen) rest

def readKey? (s : List Char) : Option (String × List Char) :=
  match s with
  | '"' :: rest => readQuoted? (rest.length + 1) [] rest
  | s =>
    let key := s.takeWhile Toml.isBare
    if key.isEmpty then none else some (String.ofList key, s.drop key.length)

def readScalar? (s : List Char) : Option (Scalar × List Char) :=
  match Toml.word? ['t', 'r', 'u', 'e'] s with
  | some rest => some (.boolean true, rest)
  | none =>
    match Toml.word? ['f', 'a', 'l', 's', 'e'] s with
    | some rest => some (.boolean false, rest)
    | none =>
      match s with
      | '"' :: rest => (readQuoted? (rest.length + 1) [] rest).map fun r => (.text r.1, r.2)
      | '\'' :: c :: '\'' :: rest => some (.character c, rest)
      | '\'' :: _ => none
      | s =>
        let text := s.takeWhile fun c => !isSeparator c
        some (word (Text.trimChars text), s.drop text.length)

mutual

def readValue? : Nat → List Char → Option (Setting × List Char)
  | 0, _ => none
  | fuel + 1, s =>
    let value : Option (Setting × List Char) := match skipSpace s with
      | '\x7b' :: rest => readEntries? fuel [] rest
      | '[' :: rest => readItems? fuel [] rest
      | s => (readScalar? s).map fun r => (.scalar .environment r.1, r.2)
    value.map fun r => (r.1, skipSpace r.2)

/-- Items up to a closing bracket; those that have been read are in reverse. -/
def readItems? : Nat → List Setting → List Char → Option (Setting × List Char)
  | 0, _, _ => none
  | fuel + 1, seen, s =>
    match s with
    | ']' :: rest => some (.sequence .environment seen.reverse, rest)
    | s =>
      match readValue? fuel s with
      | some (item, ',' :: rest) => readItems? fuel (item :: seen) rest
      | some (item, ']' :: rest) => some (.sequence .environment (item :: seen).reverse, rest)
      | _ => none

def readEntries? : Nat → List (String × Setting) → List Char → Option (Setting × List Char)
  | 0, _, _ => none
  | fuel + 1, seen, s =>
    match s with
    | '\x7d' :: rest => some (.map .environment seen, rest)
    | s =>
      match readKey? (skipSpace s) with
      | none => none
      | some (key, rest) =>
        match skipSpace rest with
        | '=' :: rest =>
          match readValue? fuel rest with
          | some (value, ',' :: rest) => readEntries? fuel (Entries.insert key value seen) rest
          | some (value, '\x7d' :: rest) =>
            some (.map .environment (Entries.insert key value seen), rest)
          | _ => none
        | _ => none

end

/-- The setting that a value stands for. What cannot be read to its end is plain text. -/
def settingOf (text : String) : Setting :=
  match readValue? (2 * text.length + 2) text.toList with
  | some (value, []) => value
  | _ => .scalar .environment (.text text)

/-! ## Names -/

/-- What the names of the variables start with, in any case. -/
def nameStart : String := "CABLEFLOW_"

def splitUnderscores : List Char → List Char
  | '_' :: '_' :: rest => '.' :: splitUnderscores rest
  | c :: rest => c :: splitUnderscores rest
  | [] => []

/-- The keys that lead to the setting of a variable, in lower case; none for any other variable. -/
def keysOf (name : String) : List String :=
  let name := Text.trimChars name.toList
  let length := nameStart.length
  if (name.take length).map Char.toLower = nameStart.toList.map Char.toLower then
    let place := Text.trimChars (splitUnderscores (name.drop length))
    let keys := Text.splitOn '.' (place.map Char.toLower)
    (keys.takeWhile fun key => !key.isEmpty).map String.ofList
  else []

def nest (value : Setting) : List String → Setting
  | [] => value
  | key :: rest => .map .environment [(key, nest value rest)]

def settings (environment : Environment) : Setting :=
  environment.foldl (fun settings (name, text) =>
    match keysOf name with
    | [] => settings
    | keys => settings.override (nest (settingOf text) keys)) (.map .environment [])

end Environment

end FlowConsole
