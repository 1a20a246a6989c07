import FlowConsole.Text.Split
/-!
Paths of files: their components, names and extensions.
-/
namespace FlowConsole.Files.Path

open Text

def components (path : String) : List String :=
  ((splitOn '/' path.toList).filter fun c => !c.isEmpty).map String.ofList

def isAbsolute (path : String) : Bool :=
  path.toList.head? = some '/'

/-- Whether a path can only name a directory, since it ends in a slash or a dot. -/
def namesDirectory (path : String) : Bool :=
  let last := (splitOn '/' path.toList).getLast?.getD []
  last.isEmpty || last == ['.'] || last == ['.', '.']

/-- The last component, dots for the directory itself apart; `none` if there is none or it leads up.
-/
def fileName? (path : String) : Option String :=
  match ((components path).filter (· != ".")).getLast? with
  | some ".." => none
  | name => name

/-- The characters of a name after its last dot, and those before it; `none` if it has no dot but
in front. -/
def splitExtension? (name : List Char) : Option (List Char × List Char) :=
  let tail := name.reverse.takeWhile (· != '.')
  if tail.length = name.length ∨ tail.length + 1 = name.length then none
  else some (name.take (name.length - tail.length - 1), tail.reverse)

def stem (name : String) : String :=
  match splitExtension? name.toList with
  | some (stem, _) => String.ofList stem
  | none => name

def extension? (name : String) : Option String :=
  (splitExtension? name.toList).map fun p => String.ofList p.2

/-- A path put after a directory; an absolute one stands alone. -/
def join (directory path : String) : String :=
  if isAbsolute path then path
  else if directory.isEmpty then path
  else if directory.toList.getLast? = some '/' then directory ++ path
  else s!"{directory}/{path}"

/-- The directory that a path lies in, as written; `none` for the root and the empty path. -/
def parent? (path : String) : Option String :=
  match ((components path).filter (· != ".")).reverse with
  | [] => none
  | _ :: above =>
    let text := "/".intercalate above.reverse
    some (if isAbsolute path then "/" ++ text else text)

def commonLength : List String → List String → Nat
  | a :: as, b :: bs => if a = b then commonLength as bs + 1 else 0
  | _, _ => 0

/-- The name of an absolute path in messages: the way to it from the current directory, if that has
fewer components. -/
def displayed (current : List String) (path : String) : String :=
  let parts := components path
  let common := commonLength current parts
  let relative := List.replicate (current.length - common) ".." ++ parts.drop common
  if relative.length ≤ parts.length then "/".intercalate relative else path

end FlowConsole.Files.Path
