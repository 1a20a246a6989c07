import FlowConsole.Command.Run
/-!
The program: it reads the files that a command names, runs the command, and writes what it printed
and changed. There is no network here, so no connection to a controller succeeds.
-/
namespace FlowConsole.Program

open Command Files

partial def readInput (input : IO.FS.Stream) (seen : String) : IO String := do
  let line ← input.getLine
  if line.isEmpty then pure seen else readInput input (seen ++ line)

def readEnvironment : IO Environment := do
  let bytes ← IO.FS.readBinFile "/proc/self/environ"
  let text := Text.Utf8.decodeLossy bytes.toList
  let pairs := (Text.splitOn '\x00' text.toList).map fun word =>
    let name := word.takeWhile (· != '=')
    (String.ofList name, String.ofList (word.drop (name.length + 1)))
  pure ((pairs.filter fun v => !v.1.isEmpty).mergeSort fun a b => a.1 ≤ b.1)

/-- What is at an entry of a directory, as deep as it goes. Links below it are not followed. A file
that is there but cannot be read stands as one whose bytes are no text, so reading it fails. -/
partial def readNode (entry : IO.FS.DirEntry) : IO { node : Node // node.IsOrdered } := do
  if ← entry.path.isDir then
    let mut directory : { node : Node // node.IsOrdered } := ⟨.directory [], Node.isOrdered_empty⟩
    for e in ← entry.path.readDir do
      let isLink := (← e.path.symlinkMetadata).type matches .symlink
      let below ← if isLink then pure ⟨.link "", .link ""⟩ else readNode e
      directory := ⟨directory.1.put [e.fileName] below.1, directory.2.put below.2 [e.fileName]⟩
    pure directory
  else
    match ← (IO.FS.readBinFile entry.path).toBaseIO with
    | .ok bytes => pure ⟨.file bytes.toList, .file _⟩
    | .error _ => pure ⟨.file [0xFF], .file _⟩

def copyInto (tree : Tree) (path : String) : IO Tree := do
  let entry : IO.FS.DirEntry := { root := ← IO.currentDir, fileName := path }
  if !(← entry.path.pathExists) then return tree
  let node ← readNode entry
  let copied : Except Files.Error Tree := do
    let tree ← tree.makeDirectories ((Path.parent? path).getD "")
    let place ← tree.place true path
    pure (tree.put place.path node.2)
  pure (copied.toOption.getD tree)

def recordOf? : Command → Option String
  | .flows (.add r) => some r
  | .flows (.update r) => some r
  | .flows (.remove r) => some r
  | .cmts (.add r) => some r
  | .cmts (.remove r) => some r
  | _ => none

def readsFixtures : Command → Bool
  | .fixtures _ => true
  | c => c.needsFixtures

def readFiles (s : Surroundings) (o : Options) (c : Command) : IO Tree := do
  let current := Path.components (← IO.currentDir).toString
  let tree ← copyInto (.empty current) s.configPath
  let tree ← match recordOf? c with
    | some path => copyInto tree path
    | none => pure tree
  let start : Effects := { files := tree, controller := .unreachable, output := "", notices := "" }
  match readsFixtures c, (Running.settings s o start).1 with
  | true, .ok settings => copyInto tree settings.fixturesDir
  | _, _ => pure tree

def writeConfig (s : Surroundings) (before after : Tree) : IO Unit := do
  match (before.read s.configPath).toOption, (after.read s.configPath).toOption with
  | old, some bytes =>
    if old ≠ some bytes then
      IO.FS.createDirAll ((Path.parent? s.configPath).getD "")
      IO.FS.writeBinFile s.configPath (ByteArray.mk bytes.toArray)
  | _, none => pure ()

def usage : String :=
  "Usage: cableflow [OPTIONS] [COMMAND]\n" ++
    "Commands: menu, topology, flows, stats, cmts, fixtures, config, completions\n"

def errorText (e : Command.Error) : String :=
  let code := e.code?.elim "" (· ++ "\n")
  let reason := e.reason?.elim "" fun r => s!"  because: {r}\n"
  let help := e.help?.elim "" fun h => s!"  help: {h}\n"
  s!"{code}  {e.message}\n" ++ reason ++ help

def runArguments (environment : Environment) (a : Arguments) : IO Nat := do
  let c := a.command.getD .menu
  let input ← if c matches .menu then readInput (← IO.getStdin) "" else pure ""
  let s : Surroundings := { home := none, environment, input }
  let files ← readFiles s a.options c
  let r := a.run s { files, controller := .unreachable, output := "", notices := "" }
  IO.print r.2.output
  IO.eprint r.2.notices
  writeConfig s files r.2.files
  match r.1 with
  | .ok _ => pure 0
  | .error e => do
    IO.eprint (errorText e)
    pure e.exitCode

end FlowConsole.Program

def main (arguments : List String) : IO UInt32 := do
  let environment ← FlowConsole.Program.readEnvironment
  let code ← match FlowConsole.Command.Arguments.parse environment arguments with
    | .ok a => FlowConsole.Program.runArguments environment a
    | .error e => do
      IO.print e.output
      if e.output.isEmpty then
        if e.exitCode = 0 then IO.print FlowConsole.Program.usage
        else IO.eprint FlowConsole.Program.usage
      pure e.exitCode
  pure (UInt32.ofNat code)
