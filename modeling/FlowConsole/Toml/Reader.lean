import FlowConsole.Toml.Scalar
import FlowConsole.Toml.Table
/-!
Reading a TOML document: first its statements, then the tables that they build.
-/
namespace FlowConsole.Toml

inductive Statement
  | entry (path : List String) (key : String) (value : Value)
  | header (path : List String) (key : String)
  | nextHeader (path : List String) (key : String)
deriving Repr

/-- How deep arrays and inline tables may nest, and how many parts a key may have. -/
def depthLimit : Nat := 80

def readSimpleKey? (s : List Char) : Option (String × List Char) :=
  match s with
  | '"' :: '"' :: '"' :: _ => none
  | '\'' :: '\'' :: '\'' :: _ => none
  | '"' :: _ => readString? s
  | '\'' :: _ => readString? s
  | s =>
    let bare := s.takeWhile isBare
    if bare.isEmpty then none else some (String.ofList bare, s.drop bare.length)

def readKeyParts? : Nat → List Char → Option (List String × List Char)
  | 0, _ => none
  | fuel + 1, s => do
    let (part, rest) ← readSimpleKey? (skipBlanks s)
    match skipBlanks rest with
    | '.' :: rest =>
      let (parts, rest) ← readKeyParts? fuel rest
      some (part :: parts, rest)
    | rest => some ([part], rest)

def readKey? (s : List Char) : Option (List String × String × List Char) := do
  let (parts, rest) ← readKeyParts? depthLimit s
  let last ← parts.getLast?
  some (parts.dropLast, last, rest)

def skipGaps : Nat → List Char → Option (List Char)
  | 0, _ => none
  | fuel + 1, s =>
    match skipBlanks s with
    | '#' :: rest =>
      match skipComment ('#' :: rest) with
      | some rest => skipGaps fuel rest
      | none => none
    | s =>
      match newline? s with
      | some rest => skipGaps fuel rest
      | none => some s

mutual

/-- A value. `depth` counts the arrays and inline tables that may still be opened. -/
def readValue? (fuel depth : Nat) (s : List Char) : Option (Value × List Char) :=
  match fuel with
  | 0 => none
  | fuel + 1 =>
    match s with
    | '[' :: rest =>
      if depth ≤ 1 then none
      else
        match skipGaps (rest.length + 1) rest with
        | some (']' :: rest) => some (.array [], rest)
        | some rest => readItems? fuel (depth - 1) [] rest
        | none => none
    | '\x7b' :: rest =>
      if depth ≤ 1 then none
      else
        match skipBlanks rest with
        | '\x7d' :: rest => some (.table [], rest)
        | rest => readPairs? fuel (depth - 1) [] rest
    | s => readScalar? s

/-- The items of an array from one that must be there; those read so far are in reverse. A comma may
stand after the last. -/
def readItems? (fuel depth : Nat) (seen : List Value) (s : List Char) :
    Option (Value × List Char) :=
  match fuel with
  | 0 => none
  | fuel + 1 =>
    match readValue? fuel depth s with
    | none => none
    | some (v, rest) =>
      match skipGaps (rest.length + 1) rest with
      | some (']' :: rest) => some (.array (v :: seen).reverse, rest)
      | some (',' :: rest) =>
        match skipGaps (rest.length + 1) rest with
        | some (']' :: rest) => some (.array (v :: seen).reverse, rest)
        | some rest => readItems? fuel depth (v :: seen) rest
        | none => none
      | _ => none

def readPairs? (fuel depth : Nat) (seen : Items) (s : List Char) : Option (Value × List Char) :=
  match fuel with
  | 0 => none
  | fuel + 1 =>
    match readKey? s with
    | none => none
    | some (path, key, rest) =>
      match rest with
      | '=' :: rest =>
        match readValue? fuel depth (skipBlanks rest) with
        | none => none
        | some (v, rest) =>
          match Items.addValue path key v .header seen with
          | none => none
          | some items =>
            match skipBlanks rest with
            | '\x7d' :: rest => some (.table (entriesToValues items), rest)
            | ',' :: rest => readPairs? fuel depth items rest
            | _ => none
      | _ => none

end

/-- Whether only a comment is left on a line, and what stands on the next. -/
def endLine? (s : List Char) : Option (List Char) := do
  let rest ← skipComment (skipBlanks s)
  if rest.isEmpty then some [] else newline? rest

def readStatement? (s : List Char) : Option (Statement × List Char) :=
  match s with
  | '[' :: '[' :: rest => do
    let (path, key, rest) ← readKey? rest
    match rest with
    | ']' :: ']' :: rest => some (.nextHeader path key, rest)
    | _ => none
  | '[' :: rest => do
    let (path, key, rest) ← readKey? rest
    match rest with
    | ']' :: rest => some (.header path key, rest)
    | _ => none
  | s => do
    let (path, key, rest) ← readKey? s
    match rest with
    | '=' :: rest =>
      let rest := skipBlanks rest
      let (v, rest) ← readValue? (2 * rest.length + 2) depthLimit rest
      some (.entry path key v, rest)
    | _ => none

/-- The statements of a document, one a line, with blank lines and comments between them. -/
def readStatements? : Nat → List Char → Option (List Statement)
  | 0, _ => none
  | fuel + 1, s =>
    match skipGaps (s.length + 1) s with
    | none => none
    | some [] => some []
    | some s => do
      let (statement, rest) ← readStatement? s
      let rest ← endLine? rest
      let statements ← readStatements? fuel rest
      some (statement :: statements)

/-- Builds the tables of a document; `table` is the path of the one that is open. -/
def build? : (table : List String) → Items → List Statement → Option Items
  | _, items, [] => some items
  | table, items, .entry path key v :: rest => do
    let items ← items.addToTable table path key v
    build? table items rest
  | _, items, .header path key :: rest => do
    let items ← items.openTable path key
    build? (path ++ [key]) items rest
  | _, items, .nextHeader path key :: rest => do
    let items ← items.openNext path key
    build? (path ++ [key]) items rest

/-- Reads a document; `none` if it is not TOML. A byte order mark in front is dropped. -/
def parse? (s : String) : Option Table := do
  let chars := match s.toList with
    | '\uFEFF' :: rest => rest
    | chars => chars
  let statements ← readStatements? (chars.length + 1) chars
  let items ← build? [] [] statements
  some (entriesToValues items)

end FlowConsole.Toml
