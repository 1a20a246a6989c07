import FlowConsole.Json.Value
/-!
The text of a JSON value: compact, without any blank, or indented by two columns a level.

Both print the members of an object in the order the value lists them.
-/
namespace FlowConsole.Json

def hexDigit (n : Nat) : Char :=
  Nat.digitChar (n % 16)

/-- A quote, a backslash and the control characters are escaped, the latter by a letter where there
is one; every other character stands for itself. -/
def escapeChar (c : Char) : List Char :=
  match c with
  | '"' => ['\\', '"']
  | '\\' => ['\\', '\\']
  | '\x08' => ['\\', 'b']
  | '\t' => ['\\', 't']
  | '\n' => ['\\', 'n']
  | '\x0c' => ['\\', 'f']
  | '\r' => ['\\', 'r']
  | c =>
    if c.toNat < 0x20 then ['\\', 'u', '0', '0', hexDigit (c.toNat / 16), hexDigit c.toNat]
    else [c]

def quoted (s : String) : List Char :=
  '"' :: (s.toList.flatMap escapeChar ++ ['"'])

def nullText : List Char := ['n', 'u', 'l', 'l']

@[inherit_doc nullText]
def boolText : Bool → List Char
  | true => ['t', 'r', 'u', 'e']
  | false => ['f', 'a', 'l', 's', 'e']

namespace Value

mutual

def compactChars : Value → List Char
  | .null => nullText
  | .bool b => boolText b
  | .number n => n.text
  | .string s => quoted s
  | .array items => '[' :: compactItems items
  | .object members => '\x7b' :: compactMembers members

def compactItems : List Value → List Char
  | [] => [']']
  | [v] => v.compactChars ++ [']']
  | v :: rest => v.compactChars ++ ',' :: compactItems rest

def compactMembers : List (String × Value) → List Char
  | [] => ['\x7d']
  | [(k, v)] => quoted k ++ ':' :: (v.compactChars ++ ['\x7d'])
  | (k, v) :: rest => quoted k ++ ':' :: (v.compactChars ++ ',' :: compactMembers rest)

end

def newline (depth : Nat) : List Char :=
  '\n' :: List.replicate (2 * depth) ' '

mutual

/-- The indented text; `depth` is the level of the value itself. -/
def prettyChars (depth : Nat) : Value → List Char
  | .null => nullText
  | .bool b => boolText b
  | .number n => n.text
  | .string s => quoted s
  | .array [] => ['[', ']']
  | .array items => '[' :: prettyItems depth items
  | .object [] => ['\x7b', '\x7d']
  | .object members => '\x7b' :: prettyMembers depth members

def prettyItems (depth : Nat) : List Value → List Char
  | [] => newline depth ++ [']']
  | [v] => newline (depth + 1) ++ prettyChars (depth + 1) v ++ newline depth ++ [']']
  | v :: rest =>
    newline (depth + 1) ++ prettyChars (depth + 1) v ++ ',' :: prettyItems depth rest

def prettyMembers (depth : Nat) : List (String × Value) → List Char
  | [] => newline depth ++ ['\x7d']
  | [(k, v)] =>
    newline (depth + 1) ++ quoted k ++ ':' :: ' ' :: prettyChars (depth + 1) v ++
      newline depth ++ ['\x7d']
  | (k, v) :: rest =>
    newline (depth + 1) ++ quoted k ++ ':' :: ' ' :: prettyChars (depth + 1) v ++
      ',' :: prettyMembers depth rest

end

def compact (v : Value) : String :=
  String.ofList v.compactChars

def pretty (v : Value) : String :=
  String.ofList (v.prettyChars 0)

def «show» (v : Value) : String :=
  v.sorted.pretty

end Value

end FlowConsole.Json
