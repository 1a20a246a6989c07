import FlowConsole.Url.Basic
import FlowConsole.Json.Reader
import FlowConsole.Record.Key
/-!
Why a call to the controller gave no usable answer. A status that reports failure is an answer and
no error.
-/
namespace FlowConsole.Http

/-- Where the transport failed: before anything was sent, on connecting, before a reply came, or
within a reply. -/
inductive TransportFailure
  | unsendable (url : Option Url)
  | unreachable (url : Url)
  | dropped (url : Url)
  | truncated
deriving DecidableEq, Repr

namespace TransportFailure

def url? : TransportFailure → Option Url
  | .unsendable url => url
  | .unreachable url => some url
  | .dropped url => some url
  | .truncated => none

def message (f : TransportFailure) : String :=
  let what := match f with
    | .unsendable _ => "builder error"
    | .unreachable _ => "error sending request"
    | .dropped _ => "error sending request"
    | .truncated => "error decoding response body"
  what ++ f.url?.elim "" fun url => s!" for url ({url.text})"

def isConnect : TransportFailure → Bool
  | .unreachable _ => true
  | _ => false

end TransportFailure

inductive Error
  | transport (failure : TransportFailure)
  | invalidUrl (error : Url.Error)
  | timeout (seconds : Nat)
  | pathNotSet
  | unauthorized (path : String)
  | invalidRecord (message : String)
  | unwritable (error : Json.Error)
  | unreadable (message body : String)
deriving DecidableEq, Repr

namespace Error

def message : Error → String
  | .transport failure => s!"HTTP transport error: {failure.message}"
  | .invalidUrl error => s!"Invalid URL: {error.message}"
  | .timeout seconds => s!"Request timed out after {seconds}s"
  | .pathNotSet => "No resource path set on the REST client"
  | .unauthorized path => s!"Controller rejected the credentials for {path}"
  | .invalidRecord message => s!"Invalid record: {message}"
  | .unwritable error => s!"Serialization error: {error.message}"
  | .unreadable message _ => s!"Deserialization error: {message}"

def isConnect : Error → Bool
  | .transport failure => failure.isConnect
  | _ => false

def isTimeout : Error → Bool
  | .timeout _ => true
  | _ => false

def ofRecord (problem : Record.Problem) : Error :=
  .invalidRecord problem.message

end Error

end FlowConsole.Http
