import FlowConsole.Toml.Value
/-!
Tables under construction.

A table may be begun by the header of one below it or by a dotted key, and each kind of beginning
decides what may still be added; nothing is defined twice.
-/
namespace FlowConsole.Toml

/-- How a table came to be: by a header of its own, by the header of a table below it, or by a
dotted key. -/
inductive Origin
  | header
  | implied
  | dotted
deriving DecidableEq, Repr

/-- What stands under a key: a value, a table, or a list of tables of which the last is open. -/
inductive Item
  | value (value : Value)
  | table (origin : Origin) (entries : List (String × Item))
  | tables (closed : List (List (String × Item))) (last : List (String × Item))
deriving Inhabited

abbrev Items := List (String × Item)

namespace Items

def set (key : String) (item : Item) : Items → Items
  | [] => [(key, item)]
  | (k, old) :: rest => if k = key then (k, item) :: rest else (k, old) :: set key item rest

/-- Changes the entries at the end of a path of keys. Tables on the way that are missing are made
with the origin `made`; of a list of tables the last is taken. `enter` says which tables the path
may pass. -/
def modifyAt (made : Origin) (enter : Origin → Bool) (change : Origin → Items → Option Items) :
    Origin → List String → Items → Option Items
  | origin, [], items => change origin items
  | _, key :: rest, items =>
    match items.lookup key with
    | none => do
      let inner ← modifyAt made enter change made rest []
      some (items.set key (.table made inner))
    | some (.table origin entries) =>
      if enter origin then do
        let inner ← modifyAt made enter change origin rest entries
        some (items.set key (.table origin inner))
      else none
    | some (.tables closed last) => do
      let inner ← modifyAt made enter change .header rest last
      some (items.set key (.tables closed inner))
    | some (.value _) => none

/-- Adds a value under a key that is new, in a table whose origin fits: a dotted key only adds to
tables made by dotted keys, a plain one never. -/
def addNew (dotted : Bool) (key : String) (value : Value) (origin : Origin) (items : Items) :
    Option Items :=
  if dotted != (origin == .dotted) then none
  else if (items.lookup key).isSome then none
  else some (items.set key (.value value))

def addValue (path : List String) (key : String) (value : Value) (origin : Origin)
    (items : Items) : Option Items :=
  modifyAt .dotted (· != .header) (addNew (!path.isEmpty) key value) origin path items

/-- Opens the table of a header. It must be new or only implied so far. -/
def openTable (path : List String) (key : String) (items : Items) : Option Items :=
  modifyAt .implied (fun _ => true) (fun _ items =>
    match items.lookup key with
    | none => some (items.set key (.table .header []))
    | some (.table .implied entries) => some (items.set key (.table .header entries))
    | some _ => none) .header path items

def openNext (path : List String) (key : String) (items : Items) : Option Items :=
  modifyAt .implied (fun _ => true) (fun _ items =>
    match items.lookup key with
    | none => some (items.set key (.tables [] []))
    | some (.tables closed last) => some (items.set key (.tables (closed ++ [last]) []))
    | some _ => none) .header path items

def addToTable (table path : List String) (key : String) (value : Value) (items : Items) :
    Option Items :=
  modifyAt .implied (fun _ => true)
    (fun origin items => addValue path key value origin items) .header table items

end Items

mutual

def Item.toValue : Item → Value
  | .value v => v
  | .table _ entries => .table (entriesToValues entries)
  | .tables closed last => .array (tablesToValues closed ++ [.table (entriesToValues last)])

def entriesToValues : List (String × Item) → List (String × Value)
  | [] => []
  | (k, item) :: rest => (k, item.toValue) :: entriesToValues rest

def tablesToValues : List (List (String × Item)) → List Value
  | [] => []
  | entries :: rest => .table (entriesToValues entries) :: tablesToValues rest

end

end FlowConsole.Toml
