import FlowConsole.Toml.Value
/-!
Reading the values of TOML that hold no others: strings, numbers, truth values, dates and times.

A reader takes the characters that are left and gives back a value with what is left after it, or
`none`.
-/
namespace FlowConsole.Toml

open Decimal

def isBlank (c : Char) : Bool :=
  c == ' ' || c == '\t'

def skipBlanks (s : List Char) : List Char :=
  s.dropWhile isBlank

def newline? : List Char → Option (List Char)
  | '\n' :: rest => some rest
  | '\r' :: '\n' :: rest => some rest
  | _ => none

/-- Characters that comments and literal strings may hold: no controls but the tab. -/
def isPlain (c : Char) : Bool :=
  c == '\t' || (0x20 ≤ c.toNat && c.toNat ≠ 0x7F)

def skipComment : List Char → Option (List Char)
  | '#' :: rest =>
    let rest := rest.dropWhile isPlain
    if rest.isEmpty ∨ (newline? rest).isSome then some rest else none
  | s => some s

def isBare (c : Char) : Bool :=
  c.isAlphanum || c == '_' || c == '-'

def hexValue? (c : Char) : Option Nat :=
  if c.isDigit then some (c.toNat - 48)
  else if 'a' ≤ c ∧ c ≤ 'f' then some (c.toNat - 87)
  else if 'A' ≤ c ∧ c ≤ 'F' then some (c.toNat - 55)
  else none

/-! ## Strings -/

def readCode? (count : Nat) (s : List Char) : Option (Char × List Char) := do
  let digits := s.take count
  if digits.length < count then none
  else
    let n ← digits.foldlM (fun n c => (hexValue? c).map (n * 16 + ·)) 0
    if n ≤ 0x10FFFF ∧ ¬(0xD800 ≤ n ∧ n ≤ 0xDFFF) then some (Char.ofNat n, s.drop count) else none

def readEscape? : List Char → Option (Char × List Char)
  | 'b' :: rest => some ('\x08', rest)
  | 't' :: rest => some ('\t', rest)
  | 'n' :: rest => some ('\n', rest)
  | 'f' :: rest => some ('\x0c', rest)
  | 'r' :: rest => some ('\r', rest)
  | '"' :: rest => some ('"', rest)
  | '\\' :: rest => some ('\\', rest)
  | 'u' :: rest => readCode? 4 rest
  | 'U' :: rest => readCode? 8 rest
  | _ => none

/-- A string between quotes on one line, after its opening quote; what has been read is in reverse.
-/
def readBasic? : Nat → List Char → List Char → Option (String × List Char)
  | 0, _, _ => none
  | _ + 1, _, [] => none
  | fuel + 1, seen, c :: rest =>
    if c = '"' then some (String.ofList seen.reverse, rest)
    else if c = '\\' then
      match readEscape? rest with
      | some (e, rest) => readBasic? fuel (e :: seen) rest
      | none => none
    else if isPlain c then readBasic? fuel (c :: seen) rest
    else none

def skipLines : List Char → List Char
  | [] => []
  | c :: rest =>
    if c = '\r' then
      match rest with
      | '\n' :: _ => skipLines rest
      | _ => c :: rest
    else if isBlank c || c == '\n' then skipLines rest
    else c :: rest

def runLength (c : Char) (s : List Char) : Nat :=
  (s.takeWhile (· == c)).length

/-- A string over several lines, after its opening delimiter, three times `quote`. Up to two quotes
may stand in front of the closing one. Escapes are read if `escapes` is set; a backslash at the end
of a line joins it with the next word. -/
def readLines? (quote : Char) (escapes : Bool) :
    Nat → List Char → List Char → Option (String × List Char)
  | 0, _, _ => none
  | _ + 1, _, [] => none
  | fuel + 1, seen, c :: rest =>
    if c = quote then
      let run := runLength quote (c :: rest)
      if run < 3 then readLines? quote escapes fuel (c :: seen) rest
      else if run ≤ 5 then
        some (String.ofList (seen.reverse ++ List.replicate (run - 3) quote),
          (c :: rest).drop run)
      else none
    else if c = '\\' ∧ escapes then
      match readEscape? rest with
      | some (e, rest) => readLines? quote escapes fuel (e :: seen) rest
      | none =>
        match newline? (skipBlanks rest) with
        | some after => readLines? quote escapes fuel seen (skipLines after)
        | none => none
    else if c = '\n' then readLines? quote escapes fuel ('\n' :: seen) rest
    else if c = '\r' then
      match rest with
      | '\n' :: after => readLines? quote escapes fuel ('\n' :: seen) after
      | _ => none
    else if isPlain c then readLines? quote escapes fuel (c :: seen) rest
    else none

def readLiteral? (s : List Char) : Option (String × List Char) :=
  let body := s.takeWhile fun c => isPlain c && c ≠ '\''
  match s.drop body.length with
  | '\'' :: rest => some (String.ofList body, rest)
  | _ => none

def readString? (s : List Char) : Option (String × List Char) :=
  let fuel := s.length + 1
  let trimmed (t : List Char) : List Char := (newline? t).getD t
  match s with
  | '"' :: '"' :: '"' :: rest => readLines? '"' true fuel [] (trimmed rest)
  | '"' :: rest => readBasic? fuel [] rest
  | '\'' :: '\'' :: '\'' :: rest => readLines? '\'' false fuel [] (trimmed rest)
  | '\'' :: rest => readLiteral? rest
  | _ => none

/-! ## Numbers -/

/-- Digits with single underscores between them, underscores left out. -/
def readDigits? (isDigit : Char → Bool) (s : List Char) : Option (List Char × List Char) :=
  let body := s.takeWhile fun c => isDigit c || c == '_'
  let parts := body.foldr (fun c acc =>
    if c = '_' then [] :: acc
    else match acc with
      | [] => [[c]]
      | p :: ps => (c :: p) :: ps) [[]]
  if parts.any List.isEmpty then none else some (parts.flatten, s.drop body.length)

def natOfDigits (base : Nat) (digits : List Char) : Nat :=
  digits.foldl (fun n c => n * base + (hexValue? c).getD 0) 0

def fits (n : Int) : Bool :=
  -0x8000000000000000 ≤ n && n < 0x8000000000000000

def readBased? (base : Nat) (isDigit : Char → Bool) (s : List Char) :
    Option (Value × List Char) := do
  let (digits, rest) ← readDigits? isDigit s
  let n : Int := natOfDigits base digits
  if fits n then some (.integer n, rest) else none

/-- The part of a float after its integer part: fraction, exponent or both. -/
def readFloatTail? (s : List Char) : Option (List Char × Int × List Char) := do
  let (fraction, rest) ←
    match s with
    | '.' :: rest => readDigits? Char.isDigit rest
    | s => some ([], s)
  let exponentOf (rest : List Char) : Option (Int × List Char) :=
    match rest with
    | '-' :: rest => (readDigits? Char.isDigit rest).map fun d => (-(natOfDigits 10 d.1 : Int), d.2)
    | '+' :: rest => (readDigits? Char.isDigit rest).map fun d => ((natOfDigits 10 d.1 : Int), d.2)
    | rest => (readDigits? Char.isDigit rest).map fun d => ((natOfDigits 10 d.1 : Int), d.2)
  let (exponent, rest) ←
    match rest with
    | 'e' :: rest => exponentOf rest
    | 'E' :: rest => exponentOf rest
    | rest => some (0, rest)
  some (fraction, exponent, rest)

/-- Digits times a power of ten, rounded. Exponents far below any number give zero. -/
def floatOf (negative : Bool) (digits : Nat) (exponent : Int) : Floating :=
  if exponent < -20000 then .finite (.zero negative)
  else
    match Binary64.ofDecimal? negative digits exponent with
    | some x => .finite x
    | none => .infinite negative

/-- A decimal number with a fraction or an exponent. One that is too large must be negative. -/
def readFloat? (negative : Bool) (digits rest : List Char) : Option (Value × List Char) := do
  let (fraction, exponent, rest) ← readFloatTail? rest
  let f := floatOf negative (natOfDigits 10 (digits ++ fraction)) (exponent - fraction.length)
  if f = .infinite false then none else some (.float f, rest)

def readDecimal? (negative : Bool) (s : List Char) : Option (Value × List Char) := do
  let (digits, rest) ← readDigits? Char.isDigit s
  if digits.length > 1 ∧ digits.head? = some '0' then none
  else
    match rest.head? with
    | some '.' => readFloat? negative digits rest
    | some 'e' => readFloat? negative digits rest
    | some 'E' => readFloat? negative digits rest
    | _ =>
      let n : Int := natOfDigits 10 digits
      let n := if negative then -n else n
      if fits n then some (.integer n, rest) else none

def word? (word s : List Char) : Option (List Char) :=
  if s.take word.length == word then some (s.drop word.length) else none

/-- What follows a sign: a number, `inf` or `nan`. -/
def readSigned? (negative : Bool) (s : List Char) : Option (Value × List Char) :=
  match word? ['i', 'n', 'f'] s with
  | some rest => some (.float (.infinite negative), rest)
  | none =>
    match word? ['n', 'a', 'n'] s with
    | some rest => some (.float .nan, rest)
    | none => readDecimal? negative s

/-! ## Dates and times -/

def fixedDigits? (count : Nat) (s : List Char) : Option (Nat × List Char) :=
  let digits := s.take count
  if digits.length = count ∧ digits.all Char.isDigit then
    some (natOfDigits 10 digits, s.drop count)
  else none

def char? (c : Char) : List Char → Option (List Char)
  | d :: rest => if c = d then some rest else none
  | [] => none

def daysIn (year month : Nat) : Nat :=
  if month = 2 then
    if year % 4 = 0 ∧ (year % 100 ≠ 0 ∨ year % 400 = 0) then 29 else 28
  else if month ∈ [4, 6, 9, 11] then 30
  else 31

def skipDate? (s : List Char) : Option (List Char) := do
  let (year, s) ← fixedDigits? 4 s
  let s ← char? '-' s
  let (month, s) ← fixedDigits? 2 s
  let s ← char? '-' s
  let (day, s) ← fixedDigits? 2 s
  if 1 ≤ month ∧ month ≤ 12 ∧ 1 ≤ day ∧ day ≤ daysIn year month then some s else none

def skipTime? (s : List Char) : Option (List Char) := do
  let (hour, s) ← fixedDigits? 2 s
  let s ← char? ':' s
  let (minute, s) ← fixedDigits? 2 s
  let s ← char? ':' s
  let (second, s) ← fixedDigits? 2 s
  if hour ≤ 23 ∧ minute ≤ 59 ∧ second ≤ 60 then
    match s with
    | '.' :: d :: rest => if d.isDigit then some (rest.dropWhile Char.isDigit) else some s
    | s => some s
  else none

def skipOffset (s : List Char) : List Char :=
  let numeric (rest : List Char) : Option (List Char) := do
    let (hour, rest) ← fixedDigits? 2 rest
    let rest ← char? ':' rest
    let (minute, rest) ← fixedDigits? 2 rest
    if hour ≤ 23 ∧ minute ≤ 59 then some rest else none
  match s with
  | 'Z' :: rest => rest
  | 'z' :: rest => rest
  | '+' :: rest => (numeric rest).getD s
  | '-' :: rest => (numeric rest).getD s
  | s => s

def readDatetime? (s : List Char) : Option (Value × List Char) :=
  let upTo (rest : List Char) : Value :=
    .datetime (String.ofList (s.take (s.length - rest.length)))
  match skipDate? s with
  | none => (skipTime? s).map fun rest => (upTo rest, rest)
  | some rest =>
    let time := match rest with
      | c :: after => if c ∈ ['T', 't', ' '] then skipTime? after else none
      | [] => none
    match time with
    | some after => some (upTo (skipOffset after), skipOffset after)
    | none => some (upTo rest, rest)

def readNumber? (s : List Char) : Option (Value × List Char) :=
  match readDatetime? s with
  | some r => some r
  | none =>
    match s with
    | '+' :: rest => readSigned? false rest
    | '-' :: rest => readSigned? true rest
    | '0' :: 'x' :: rest => readBased? 16 (fun c => (hexValue? c).isSome) rest
    | '0' :: 'o' :: rest => readBased? 8 (fun c => '0' ≤ c && c ≤ '7') rest
    | '0' :: 'b' :: rest => readBased? 2 (fun c => c == '0' || c == '1') rest
    | s => readDecimal? false s

def readScalar? (s : List Char) : Option (Value × List Char) :=
  match s with
  | [] => none
  | c :: _ =>
    if c = '"' ∨ c = '\'' then (readString? s).map fun r => (.string r.1, r.2)
    else if c = 't' then (word? ['t', 'r', 'u', 'e'] s).map fun rest => (.boolean true, rest)
    else if c = 'f' then (word? ['f', 'a', 'l', 's', 'e'] s).map fun rest => (.boolean false, rest)
    else if c = 'i' ∨ c = 'n' then readSigned? false s
    else if c = '+' ∨ c = '-' ∨ c.isDigit then readNumber? s
    else none

end FlowConsole.Toml
