import FlowConsole.Entries
import FlowConsole.Json.Number
/-!
JSON values.

An object is the list of its members. Values that were read, or built with `Value.ofMembers`, list
them by strictly ascending key; a value made to be printed may list them in any order.
-/
namespace FlowConsole.Json

inductive Value
  | null
  | bool (value : Bool)
  | number (value : Number)
  | string (value : String)
  | array (items : List Value)
  | object (members : List (String × Value))
deriving Repr, Inhabited

namespace Value

/-- The object with these members, sorted by key; of several under one key the last stays. -/
def ofMembers (members : List (String × Value)) : Value :=
  .object (members.foldl (fun acc m => Entries.insert m.1 m.2 acc) [])

def ofNat (n : Nat) : Value := .number (.ofNat n)

def ofString? (s : Option String) : Value := s.elim .null .string

def get? (key : String) : Value → Option Value
  | .object members => members.lookup key
  | _ => none

def member (v : Value) (key : String) : Value :=
  (v.get? key).getD .null

def item (v : Value) (i : Nat) : Value :=
  match v with
  | .array items => items[i]?.getD .null
  | _ => .null

def string? : Value → Option String
  | .string s => some s
  | _ => none

def array? : Value → Option (List Value)
  | .array items => some items
  | _ => none

def nat? : Value → Option Nat
  | .number n => n.toNat?
  | _ => none

def isObject : Value → Bool
  | .object _ => true
  | _ => false

def getString? (v : Value) (key : String) : Option String :=
  (v.get? key).bind string?

mutual

def sorted : Value → Value
  | .array items => .array (sortedItems items)
  | .object members => .object (sortedMembers members)
  | v => v

def sortedItems : List Value → List Value
  | [] => []
  | v :: rest => v.sorted :: sortedItems rest

def sortedMembers : List (String × Value) → List (String × Value)
  | [] => []
  | (k, v) :: rest => Entries.insert k v.sorted (sortedMembers rest)

end

end Value

end FlowConsole.Json
