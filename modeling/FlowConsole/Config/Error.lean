import FlowConsole.Config.Extract
import FlowConsole.Files.Error
/-!
Errors of loading, checking and saving a configuration.
-/
namespace FlowConsole.Config

/-- Why the settings could not be read. A misfit says which setting; the other causes concern the
file as a whole, or have no place at all. -/
inductive LoadError
  | malformedFile
  | unreadableFile (error : Files.Error)
  | misfit (misfit : Misfit)
  | unplaced (message : String)
deriving DecidableEq, Repr

namespace LoadError

/-- What is wrong, without the place. What a document's mistake is remains unsaid. -/
def problem : LoadError → String
  | .malformedFile => "TOML parse error"
  | .unreadableFile error => error.message
  | .misfit m => m.mismatch.message
  | .unplaced message => message

def path : LoadError → List String
  | .misfit m => m.path
  | _ => []

def layer : LoadError → Layer
  | .misfit m => m.layer
  | _ => .file

def root : String := "default"

def origin (file : String) : Layer → String
  | .file => s!"{file} TOML file"
  | .environment => "`CABLEFLOW_` environment variable(s)"
  | .builtin => "built-in settings"

/-- The place of a setting in the terms of its layer: variables are written in capitals, and
everything else below the root. -/
def place (layer : Layer) (path : List String) : String :=
  match layer with
  | .environment => ".".intercalate (path.map fun key => key.map Char.toUpper)
  | _ => ".".intercalate (root :: path)

/-- The wording with the place. `file` is the path to call the file by. -/
def message (file : String) (e : LoadError) : String :=
  let key := if e.path.isEmpty then "" else s!" for key {Text.Quoted.quote (place e.layer e.path)}"
  match e with
  | .malformedFile => e.problem
  | .unplaced message => message
  | e => s!"{e.problem}{key} in {origin file e.layer}"

end LoadError

/-- Why a configuration is of no use. `unwritable` means that a number is too large for the file;
`file` is the path that messages call the file by. -/
inductive Error
  | invalid (field reason : String)
  | unknownProfile (name : String)
  | unwritable
  | unloadable (file : String) (error : LoadError)
  | files (error : Files.Error)
deriving DecidableEq, Repr

def Error.message : Error → String
  | .invalid field reason => s!"invalid {field}: {reason}"
  | .unknownProfile name => s!"profile '{name}' not found in config"
  | .unwritable => "failed to serialize config: out-of-range value for u64 type"
  | .unloadable file error => s!"config loading failed: {error.message file}"
  | .files error => s!"IO error: {error.message}"

end FlowConsole.Config
