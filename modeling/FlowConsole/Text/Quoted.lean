import FlowConsole.Text.Property
/-!
Quoted text for messages: what cannot be seen is written as an escape.
-/
namespace FlowConsole.Text.Quoted

/-- A code point as an escape: lower-case hexadecimal digits between braces. -/
def codeEscape (c : Char) : List Char :=
  ['\\', 'u', '\x7b'] ++ Nat.toDigits 16 c.toNat ++ ['\x7d']

/-- The common controls, the quote and the backslash have escapes of their own; marks that would
join the character before them and everything unprintable are written by code point. -/
def escape (c : Char) : List Char :=
  match c with
  | '\x00' => ['\\', '0']
  | '\t' => ['\\', 't']
  | '\r' => ['\\', 'r']
  | '\n' => ['\\', 'n']
  | '"' => ['\\', '"']
  | '\\' => ['\\', '\\']
  | c =>
    if 0x20 ≤ c.toNat ∧ c.toNat < 0x7F then [c]
    else if extending.contains c || unprintable.contains c then codeEscape c
    else [c]

def encode (s : List Char) : List Char :=
  '"' :: (s.flatMap escape ++ ['"'])

def quote (s : String) : String :=
  String.ofList (encode s.toList)

/-- A single character between apostrophes, which are escaped then instead of the quote. -/
def quoteChar (c : Char) : String :=
  match c with
  | '"' => "'\"'"
  | '\'' => "'\\''"
  | c => String.ofList ('\'' :: (escape c ++ ['\'']))

end FlowConsole.Text.Quoted
