import FlowConsole.Files.Error
import FlowConsole.Files.Node
import FlowConsole.Files.Path
import FlowConsole.Text.Utf8
/-!
A tree of files, directories and symbolic links, and a directory to start relative paths from.

Looking up a path follows links on the way, at most forty of them, and the one at its end if asked.
The entries of a directory stand in ascending order of their names.
-/
namespace FlowConsole.Files

open Text

/-- The whole tree and the directory in which the program runs. -/
structure Tree where
  root : Node
  current : List String
  ordered : root.IsOrdered
deriving Repr

namespace Tree

def empty (current : List String) : Tree :=
  { root := (Node.directory []).put current (.directory []), current
    ordered := Node.isOrdered_empty.put Node.isOrdered_empty current }

instance : Inhabited Tree := ⟨empty []⟩

def put (t : Tree) (path : List String) {node : Node} (h : node.IsOrdered) : Tree :=
  { t with root := t.root.put path node, ordered := t.ordered.put h path }

def longestName : Nat := 255

def linkLimit : Nat := 40

/-- Where a look-up ends: the directory, the last name, and what is there. -/
structure Place where
  path : List String
  node : Option Node

/-- Walks along components from the directory at `here`. A component that is missing is an error
unless it is the last. `links` counts the links that may still be followed. -/
def walk (root : Node) (followLast : Bool) (links : Nat) (here : List String)
    (path : List String) : Except Error Place :=
  match path with
  | [] => .ok { path := here, node := root.at? here }
  | name :: rest =>
    match root.at? here with
    | some (.directory entries) =>
      if name = "." then walk root followLast links here rest
      else if name = ".." then walk root followLast links here.dropLast rest
      else if name.utf8ByteSize > longestName then .error .nameTooLong
      else
        match entries.lookup name with
        | none =>
          if rest.isEmpty then .ok { path := here ++ [name], node := none } else .error .notFound
        | some (.link target) =>
          if rest.isEmpty ∧ !followLast then
            .ok { path := here ++ [name], node := some (.link target) }
          else
            match links with
            | 0 => .error .linkLoop
            | links + 1 =>
              let start := if Path.isAbsolute target then [] else here
              let extra := if Path.namesDirectory target && rest.isEmpty then ["."] else []
              walk root followLast links start (Path.components target ++ extra ++ rest)
        | some _ => walk root followLast links (here ++ [name]) rest
    | some _ => .error .notDirectory
    | none => .error .notFound
termination_by (links, path.length)

/-- Looks a path up. A path that ends in a slash or a dot must lead to a directory. -/
def place (t : Tree) (followLast : Bool) (path : String) : Except Error Place :=
  if path.isEmpty then .error .notFound
  else if '\x00' ∈ path.toList then .error .nulInPath
  else
    let start := if Path.isAbsolute path then [] else t.current
    let mustBeDirectory := Path.namesDirectory path
    match walk t.root (followLast || mustBeDirectory) linkLimit start
        (Path.components path) with
    | .error e => .error e
    | .ok place =>
      if mustBeDirectory then
        match place.node with
        | some (.directory _) => .ok place
        | some _ => .error .notDirectory
        | none => .ok place
      else .ok place

def find (t : Tree) (path : String) : Except Error Node := do
  let place ← t.place true path
  match place.node with
  | some node => .ok node
  | none => .error .notFound

def «exists» (t : Tree) (path : String) : Bool :=
  (t.find path).toOption.isSome

def isFile (t : Tree) (path : String) : Bool :=
  match t.find path with
  | .ok (.file _) => true
  | _ => false

def read (t : Tree) (path : String) : Except Error (List UInt8) := do
  match ← t.find path with
  | .file bytes => .ok bytes
  | _ => .error .isDirectory

def readText (t : Tree) (path : String) : Except Error String := do
  match Utf8.decode? (← t.read path) with
  | some text => .ok text
  | none => .error .notText

/-- Writes a file, new or in place of an old one. A link that leads nowhere yet gets its target. -/
def write (t : Tree) (path : String) (bytes : List UInt8) : Except Error Tree := do
  let place ← t.place true path
  match place.node with
  | some (.directory _) => .error .isDirectory
  | none =>
    if Path.namesDirectory path then .error .isDirectory
    else .ok (t.put place.path (.file bytes))
  | some _ => .ok (t.put place.path (.file bytes))

def makeDirectory (t : Tree) (path : String) : Except Error Tree :=
  match t.place false path with
  | .error e => .error e
  | .ok place =>
    match place.node with
    | some _ => .error .exists
    | none => .ok (t.put place.path Node.isOrdered_empty)

def isDirectory (t : Tree) (path : String) : Bool :=
  match t.find path with
  | .ok node => node.isDirectory
  | .error _ => false

/-- Makes a directory and those above it that are missing. `fuel` bounds their number. -/
def makeDirectoriesFrom : Nat → Tree → String → Except Error Tree
  | 0, _, _ => .error .notFound
  | fuel + 1, t, path =>
    if path.isEmpty then .ok t
    else
      match t.makeDirectory path with
      | .ok t => .ok t
      | .error .notFound =>
        match Path.parent? path with
        | none => .error (.other "failed to create whole tree")
        | some above => do
          let t ← makeDirectoriesFrom fuel t above
          match t.makeDirectory path with
          | .ok t => .ok t
          | .error e => if t.isDirectory path then .ok t else .error e
      | .error e => if t.isDirectory path then .ok t else .error e

def makeDirectories (t : Tree) (path : String) : Except Error Tree :=
  makeDirectoriesFrom ((Path.components path).length + 2) t path

def makeLink (t : Tree) (path target : String) : Except Error Tree := do
  let place ← t.place false path
  match place.node with
  | some _ => .error .exists
  | none => .ok (t.put place.path (.link target))

end Tree

end FlowConsole.Files
