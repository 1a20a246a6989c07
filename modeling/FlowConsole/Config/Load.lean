import FlowConsole.Config.Environment
import FlowConsole.Config.Error
import FlowConsole.Files.Tree
import FlowConsole.Toml.Writer
/-!
Loading a configuration from its layers, and saving one.

The environment overrides the file and the file overrides the built-in settings, key by key. A file
that does not exist is as good as an empty one.
-/
namespace FlowConsole.Config

open Files (Tree)

def builtinSettings : Setting :=
  let text (s : String) : Setting := .scalar .builtin (.text s)
  let defaults := Defaults.standard
  .map .builtin [
    ("default_profile", text standardProfile),
    ("defaults", .map .builtin [
      ("extension", text defaults.extension),
      ("fixtures_dir", text defaults.fixturesDir),
      ("output", text defaults.output)]),
    ("profiles", .map .builtin [])]

def fileSettings (tree : Tree) (path : String) : Except LoadError Setting :=
  if tree.isFile path then
    match tree.readText path with
    | .error e => .error (.unreadableFile e)
    | .ok text =>
      match Toml.parse? text with
      | some table => .ok (.ofToml (.table table))
      | none => .error .malformedFile
  else .ok (.map .file [])

def load (tree : Tree) (path : String) (environment : Environment) : Except LoadError Config := do
  let file ← fileSettings tree path
  let settings := (builtinSettings.override file).override environment.settings
  (Check.config settings).mapError .misfit

/-! ## Saving -/

def largestNumber : Nat := 0x7fffffffffffffff

def entryOf? (key : String) (value : Option Toml.Simple) : List (String × Toml.Simple) :=
  value.toList.map fun v => (key, v)

def defaultsEntries (d : Defaults) : List (String × Toml.Simple) :=
  [("output", .string d.output)] ++ entryOf? "timeout" (d.timeout.map .natural) ++
    [("fixtures_dir", .string d.fixturesDir), ("extension", .string d.extension)]

def profileEntries (p : Profile) : List (String × Toml.Simple) :=
  [("host", .string p.host), ("port", .natural p.port), ("auth", .boolean p.auth)] ++
    entryOf? "username" (p.username.map .string) ++
    entryOf? "password" (p.password.map .string) ++
    entryOf? "password_env" (p.passwordEnv.map .string) ++
    entryOf? "timeout" (p.timeout.map .natural) ++
    [("node", .natural p.node), ("table", .natural p.table)]

/-- The sections of a configuration's file. A header of its own stands for an empty set of profiles.
-/
def sections (c : Config) : List Toml.Section :=
  let profiles : List Toml.Section :=
    if c.profiles.isEmpty then [{ path := ["profiles"], entries := [] }]
    else c.profiles.map fun (name, p) =>
      { path := ["profiles", name], entries := profileEntries p }
  { path := [], entries := entryOf? "default_profile" (c.defaultProfile.map .string) } ::
    { path := ["defaults"], entries := defaultsEntries c.defaults } :: profiles

def isWritable : Toml.Simple → Bool
  | .natural n => n ≤ largestNumber
  | _ => true

/-- The text of a configuration's file; `none` if a number is too large for it. -/
def text? (c : Config) : Option String :=
  let s := sections c
  if s.all fun part => part.entries.all fun e => isWritable e.2 then some (Toml.documentText s)
  else none

/-- Changes to files. An error leaves the changes before it in place. -/
abbrev Saving (α : Type) := ExceptT Error (StateM Tree) α

def change (f : Tree → Except Files.Error Tree) : Saving Unit := fun tree =>
  match f tree with
  | .ok tree => (.ok (), tree)
  | .error e => (.error (.files e), tree)

/-- Writes a configuration to a file, whose directory is made if need be. -/
def save (c : Config) (path : String) : Saving Unit := do
  if let some directory := Files.Path.parent? path then
    change fun tree => tree.makeDirectories directory
  match text? c with
  | none => throw .unwritable
  | some text => change fun tree => tree.write path (Text.Utf8.encode text.toList)

end FlowConsole.Config
