import FlowConsole.Toml.Reader
/-!
Writing TOML: keys and strings in the plainest form that can hold them.

A string stands between quotes if nothing in it needs an escape, else between apostrophes if it may,
else over several lines in either form, and only as a last resort with escapes.
-/
namespace FlowConsole.Toml

structure Needs where
  backslash : Bool
  newline : Bool
  control : Bool
  quotes : Nat
  apostrophes : Nat
deriving DecidableEq, Repr

def longestRun (c : Char) : Nat → Nat → List Char → Nat
  | best, _, [] => best
  | best, run, d :: rest =>
    if d = c then longestRun c (max best (run + 1)) (run + 1) rest else longestRun c best 0 rest

def isControl (c : Char) : Bool :=
  (c.toNat < 0x20 && c ≠ '\t' && c ≠ '\n') || c.toNat = 0x7F

def Needs.of (s : List Char) : Needs :=
  { backslash := s.contains '\\', newline := s.contains '\n', control := s.any isControl
    quotes := longestRun '"' 0 0 s, apostrophes := longestRun '\'' 0 0 s }

def upperHexDigit (n : Nat) : Char :=
  (Nat.digitChar (n % 16)).toUpper

/-- The text between quotes. `quotesLeft` counts how many more quotes may stand as they are before
one must be escaped; `lines` says whether line ends stand as they are. -/
def escaped (lines : Bool) : Nat → List Char → List Char
  | _, [] => []
  | quotesLeft, c :: rest =>
    let after := if lines then 2 else 0
    if c = '"' then
      match quotesLeft with
      | 0 => '\\' :: '"' :: escaped lines after rest
      | left + 1 => '"' :: escaped lines left rest
    else
      let text := match c with
        | '\x08' => ['\\', 'b']
        | '\t' => ['\\', 't']
        | '\n' => if lines then ['\n'] else ['\\', 'n']
        | '\x0c' => ['\\', 'f']
        | '\r' => ['\\', 'r']
        | '\\' => ['\\', '\\']
        | c =>
          if c.toNat < 0x20 ∨ c.toNat = 0x7F then
            ['\\', 'u', '0', '0', upperHexDigit (c.toNat / 16), upperHexDigit c.toNat]
          else [c]
      text ++ escaped lines after rest

def basicText (s : List Char) : List Char :=
  '"' :: (escaped false 0 s ++ ['"'])

/-- A text between threefold delimiters. A text of several lines starts on a line of its own. -/
def linesText (delimiter : Char) (newline : Bool) (body : List Char) : List Char :=
  let marks := [delimiter, delimiter, delimiter]
  marks ++ (if newline then ['\n'] else []) ++ body ++ marks

def stringText (s : List Char) : List Char :=
  let n := Needs.of s
  if !n.control ∧ !n.backslash ∧ n.quotes = 0 ∧ !n.newline then basicText s
  else if !n.control ∧ n.apostrophes = 0 ∧ !n.newline then '\'' :: (s ++ ['\''])
  else if !n.control ∧ !n.backslash ∧ n.quotes ≤ 2 then
    linesText '"' n.newline (escaped true 2 s)
  else if !n.control ∧ n.apostrophes ≤ 2 then linesText '\'' n.newline s
  else if n.newline then linesText '"' true (escaped true 2 s)
  else basicText s

def keyText (s : List Char) : List Char :=
  let n := Needs.of s
  if !s.isEmpty ∧ s.all isBare then s
  else if !n.control ∧ !n.backslash ∧ n.quotes = 0 ∧ !n.newline then basicText s
  else if !n.control ∧ n.apostrophes = 0 ∧ !n.newline then '\'' :: (s ++ ['\''])
  else basicText s

inductive Simple
  | string (value : String)
  | natural (value : Nat)
  | boolean (value : Bool)
deriving DecidableEq, Repr

def Simple.text : Simple → String
  | .string s => String.ofList (stringText s.toList)
  | .natural n => toString n
  | .boolean b => toString b

def entryLine (key : String) (value : Simple) : String :=
  s!"{String.ofList (keyText key.toList)} = {value.text}\n"

structure Section where
  path : List String
  entries : List (String × Simple)
deriving Repr

/-- The lines of a section. The section without a header comes before all others. -/
def Section.text (s : Section) : String :=
  let name := ".".intercalate (s.path.map fun key => String.ofList (keyText key.toList))
  let header := if s.path.isEmpty then "" else s!"[{name}]\n"
  header ++ String.join (s.entries.map fun e => entryLine e.1 e.2)

/-- A document: its sections with a blank line between them. Sections without a line are left out.
-/
def documentText (sections : List Section) : String :=
  "\n".intercalate ((sections.map Section.text).filter fun t => !t.isEmpty)

end FlowConsole.Toml
