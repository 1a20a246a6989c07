import FlowConsole.Entries
import FlowConsole.Fixture.Kind
import FlowConsole.Fixture.Letter
import FlowConsole.Text.Blank
/-!
A store of fixtures: texts by name, in ascending order of the names.
-/
namespace FlowConsole.Fixture

open Text

@[ext]
structure Store where
  entries : List (String × String)
  sorted : Entries.Sorted entries
deriving DecidableEq, Repr

structure Entry where
  letter : String
  name : String
  kind : Kind
deriving DecidableEq, Repr

namespace Store

def empty : Store := { entries := [], sorted := Entries.sorted_nil }

instance : Inhabited Store := ⟨empty⟩

def insert (s : Store) (name text : String) : Store :=
  { entries := Entries.insert name text s.entries, sorted := s.sorted.insert name text }

def ofList (fixtures : List (String × String)) : Store :=
  fixtures.foldl (fun s f => s.insert f.1 f.2) empty

def size (s : Store) : Nat :=
  s.entries.length

def isEmpty (s : Store) : Bool :=
  s.entries.isEmpty

def names (s : Store) : List String :=
  s.entries.map Prod.fst

def get? (s : Store) (name : String) : Option String :=
  s.entries.lookup name

def catalogueFrom (i : Nat) : List (String × String) → List Entry
  | [] => []
  | (name, text) :: rest =>
    { letter := letter i, name, kind := .ofText text } :: catalogueFrom (i + 1) rest

def catalogue (s : Store) : List Entry :=
  catalogueFrom 0 s.entries

def selectFrom? (wanted : String) (i : Nat) : List (String × String) → Option (String × String)
  | [] => none
  | f :: rest => if letter i = wanted then some f else selectFrom? wanted (i + 1) rest

/-- The fixture of a letter; blanks around that do not matter. -/
def select? (s : Store) (wanted : String) : Option (String × String) :=
  selectFrom? (trim wanted) 0 s.entries

end Store

end FlowConsole.Fixture
