import FlowConsole.Fixture.Store
import FlowConsole.Files.Tree
/-!
Collecting fixtures from a directory tree.

Every regular file with the wanted extension becomes a fixture named by its stem. Directories are
walked depth first, the entries of each in ascending order of their names; of files with one stem
the last one visited stays. Links are not followed, and files that are no text are left out.
-/
namespace FlowConsole.Fixture

open Files Text

/-- Adds a file if it has the extension and is text. -/
def addFile (extension name : String) (bytes : List UInt8) (store : Store) : Store :=
  if Path.extension? name = some extension then
    match Utf8.decode? bytes with
    | some text => store.insert (Path.stem name) text
    | none => store
  else store

mutual

def addNode (extension name : String) (store : Store) : Node → Store
  | .file bytes => addFile extension name bytes store
  | .link _ => store
  | .directory entries => addEntries extension store entries

def addEntries (extension : String) (store : Store) : List (String × Node) → Store
  | [] => store
  | (name, node) :: rest => addEntries extension (addNode extension name store node) rest

end

def bareExtension (extension : String) : String :=
  String.ofList (extension.toList.dropWhile (· == '.'))

/-- Where a scan starts: the root itself, or the directory that it links to. -/
def startNode (tree : Tree) (root : String) : Except Files.Error Node := do
  let target ← tree.find root
  if target.isDirectory then pure target
  else
    let place ← tree.place false root
    pure (place.node.getD target)

/-- The fixtures under a root, which may also be a single file. A root that does not exist is an
error. -/
def scan (tree : Tree) (root extension : String) : Except Files.Error Store := do
  let node ← startNode tree root
  pure (addNode (bareExtension extension) ((Path.fileName? root).getD "") .empty node)

end FlowConsole.Fixture
