import FlowConsole.Config.Error
import FlowConsole.Harness.Error
/-!
Errors of the program: what it says, what it advises, and the exit code it ends with.
-/
namespace FlowConsole.Command

inductive Error
  | connectionFailed (url reason : String)
  | timeout (seconds : Nat)
  | authFailed (profile : String)
  | malformedResponse (message body : String)
  | recordNotFound (identifier : String)
  | invalidRecord (message : String)
  | fixtures (path : String) (error : Files.Error)
  | validation (field reason : String)
  | profileNotFound (name : String) (available : List String)
  | configuration (message path : String)
  | needsConfirmation (action : String)
  | internal (message : String)
  | files (error : Files.Error)
  | malformedJson (error : Json.Error)
deriving DecidableEq, Repr

namespace Error

def message : Error → String
  | .connectionFailed url _ => s!"Could not connect to controller at {url}"
  | .timeout seconds => s!"Request timed out after {seconds}s"
  | .authFailed _ => "Controller rejected the credentials (HTTP 401)"
  | .malformedResponse message _ => s!"Controller returned an unreadable response: {message}"
  | .recordNotFound identifier =>
    s!"'{identifier}' is neither a fixture, a built-in record, nor a JSON file"
  | .invalidRecord message => s!"Invalid record: {message}"
  | .fixtures path _ => s!"Cannot read fixtures under {path}"
  | .validation field reason => s!"Invalid value for {field}: {reason}"
  | .profileNotFound name _ => s!"Profile '{name}' not found in configuration"
  | .configuration message _ => s!"Configuration error: {message}"
  | .needsConfirmation action => s!"Destructive operation '{action}' requires confirmation"
  | .internal message => s!"Internal error: {message}"
  | .files error => error.message
  | .malformedJson error => s!"Invalid JSON payload: {error.message}"

/-- The short name of an error in diagnostics; errors of the file system have none. -/
def code? : Error → Option String
  | .connectionFailed _ _ => some "cableflow::connection_failed"
  | .timeout _ => some "cableflow::timeout"
  | .authFailed _ => some "cableflow::auth_failed"
  | .malformedResponse _ _ => some "cableflow::malformed_response"
  | .recordNotFound _ => some "cableflow::not_found"
  | .invalidRecord _ => some "cableflow::invalid_record"
  | .fixtures _ _ => some "cableflow::fixtures"
  | .validation _ _ => some "cableflow::validation"
  | .profileNotFound _ _ => some "cableflow::profile_not_found"
  | .configuration _ _ => some "cableflow::config"
  | .needsConfirmation _ => some "cableflow::confirmation_required"
  | .internal _ => some "cableflow::internal"
  | .files _ => none
  | .malformedJson _ => some "cableflow::json"

def namesText (names : List String) : String :=
  if names.isEmpty then "(none)" else ", ".intercalate names

def help? : Error → Option String
  | .connectionFailed url _ =>
    some ("Check that the controller is running and its RESTCONF port is reachable.\n" ++
      s!"URL: {url}\nTry: cableflow --host <addr> --port 8181 topology")
  | .timeout _ => some "Increase timeout with --timeout or check controller responsiveness."
  | .authFailed profile =>
    some (s!"Verify the username and password for profile '{profile}'.\n" ++
      "Override with --username / --password or CABLEFLOW_PASSWORD.")
  | .malformedResponse _ body => some s!"Start of the raw body:\n{body}"
  | .recordNotFound _ =>
    some ("Run: cableflow fixtures list\n" ++
      "Built-in records: cmts1, cmts2, flow1, flow2, flow3, flow4, flow5")
  | .invalidRecord _ =>
    some ("Flows need numeric `id` and `node.id` (e.g. \"openflow:1\"); " ++
      "CMTS nodes need `cmts-node.id`.")
  | .fixtures _ _ => some "Point --fixtures-dir at an existing directory."
  | .profileNotFound _ available =>
    some s!"Available profiles: {namesText available}\nCreate one with: cableflow config init"
  | .configuration _ path => some s!"Config file: {path}"
  | .needsConfirmation _ =>
    some "Use --yes (-y) to skip confirmation in non-interactive contexts."
  | .malformedJson _ => some "Check the JSON file contents and try again."
  | .validation _ _ => none
  | .internal _ => none
  | .files _ => none

def reason? : Error → Option String
  | .connectionFailed _ reason => some reason
  | .fixtures _ error => some error.message
  | _ => none

def exitCode : Error → Nat
  | .connectionFailed _ _ => 7
  | .timeout _ => 8
  | .authFailed _ => 3
  | .recordNotFound _ => 4
  | .profileNotFound _ _ => 4
  | .validation _ _ => 2
  | .needsConfirmation _ => 2
  | _ => 1

def bodyPreview : Nat := 500

def ofHarness : Harness.Error → Error
  | .connectionFailed url reason => .connectionFailed url reason
  | .timeout seconds => .timeout seconds
  | .authenticationFailed _ => .authFailed ""
  | .malformedResponse message body =>
    .malformedResponse message (String.ofList (body.toList.take bodyPreview))
  | .invalidRecord message => .invalidRecord message
  | .unknownRecord name => .recordNotFound name
  | .unreadableFixtures path error => .fixtures path error
  | .malformedFixture name error => .invalidRecord s!"fixture '{name}': {error.message}"
  | .configuration message => .validation "controller" message
  | .internal message => .internal message

/-- The error of a configuration. `available` are the profiles there are, `path` is where the
configuration lies. -/
def ofConfig (available : List String) (path : String) : Config.Error → Error
  | .invalid field reason => .validation field reason
  | .unknownProfile name => .profileNotFound name available
  | .files error => .files error
  | e => .configuration e.message path

def forProfile (name : String) : Error → Error
  | .authFailed _ => .authFailed name
  | e => e

end Error

end FlowConsole.Command
