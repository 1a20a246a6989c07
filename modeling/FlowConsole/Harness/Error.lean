import FlowConsole.Files.Error
import FlowConsole.Http.Error
/-!
Errors of a harness, in the terms of its user.
-/
namespace FlowConsole.Harness

inductive Error
  | connectionFailed (url reason : String)
  | timeout (seconds : Nat)
  | authenticationFailed (message : String)
  | malformedResponse (message body : String)
  | invalidRecord (message : String)
  | unknownRecord (name : String)
  | unreadableFixtures (path : String) (error : Files.Error)
  | malformedFixture (name : String) (error : Json.Error)
  | configuration (message : String)
  | internal (message : String)
deriving DecidableEq, Repr

namespace Error

def message : Error → String
  | .connectionFailed url reason => s!"Cannot connect to controller at {url}: {reason}"
  | .timeout seconds => s!"Controller request timed out after {seconds}s"
  | .authenticationFailed message => s!"Authentication failed: {message}"
  | .malformedResponse message _ => s!"Controller returned a body that is not valid JSON: {message}"
  | .invalidRecord message => s!"Invalid record: {message}"
  | .unknownRecord name => s!"Unknown fixture or record: {name}"
  | .unreadableFixtures path error => s!"Cannot read fixtures under {path}: {error.message}"
  | .malformedFixture name error => s!"Fixture '{name}' is not valid JSON: {error.message}"
  | .configuration message => s!"Configuration error: {message}"
  | .internal message => s!"Internal error: {message}"

def ofHttp : Http.Error → Error
  | .transport failure =>
    .connectionFailed (failure.url?.elim "<unknown>" Url.text) failure.message
  | .timeout seconds => .timeout seconds
  | .invalidUrl error => .configuration s!"Invalid URL: {error.message}"
  | .pathNotSet => .internal "request issued without a resource path"
  | .unauthorized path => .authenticationFailed (Http.Error.unauthorized path).message
  | .invalidRecord message => .invalidRecord message
  | .unwritable error => .invalidRecord error.message
  | .unreadable message body => .malformedResponse message body

end Error

end FlowConsole.Harness
