import FlowConsole.Http.Controller
import FlowConsole.Http.Error
import FlowConsole.Json.Printer
import FlowConsole.Text.Base64
import FlowConsole.Text.Quoted
import FlowConsole.Url.Reader
/-!
A client of the controller: where and as whom the next call is made, and the call itself.

One call is one request, never repeated. Any status is an answer; only a failure on the way is an
error.
-/
namespace FlowConsole.Http

open Json Text

structure Credentials where
  username : String
  password : String
deriving DecidableEq, Repr

namespace Credentials

def isUsable (c : Credentials) : Bool :=
  !c.username.isEmpty

def headerValue (c : Credentials) : String :=
  "Basic " ++ String.ofList (Base64.encode (Utf8.encode (c.username ++ ":" ++ c.password).toList))

end Credentials

structure Response where
  status : Nat
  reason : String
  body : String
deriving DecidableEq, Repr

namespace Response

def isSuccess (r : Response) : Bool :=
  Http.isSuccess r.status

def previewLength : Nat := 200

def json (r : Response) : Except Error Value :=
  match Json.parse r.body with
  | .ok v => .ok v
  | .error e =>
    let preview := Quoted.quote (String.ofList (r.body.toList.take previewLength))
    .error (.unreadable s!"{e.message} (body preview: {preview})" r.body)

/-- The body as JSON, where a blank one is `null`. -/
def jsonOrNull (r : Response) : Except Error Value :=
  if isBlankText r.body then .ok .null else r.json

end Response

/-- A client. Without a path there is nothing to call. `timeout` is in milliseconds. -/
structure Client where
  host : String
  port : Nat
  path : Option String
  credentials : Option Credentials
  timeout : Option Nat
deriving DecidableEq, Repr

abbrev Call (α : Type) := ExceptT Error (StateM Controller) α

namespace Client

def defaultPort : Nat := 8080

def jsonType : String := "json"

def userAgent : String := "cableflow/0.1.0"

def ofHost (host : String) (timeout : Option Nat) : Client :=
  { host, port := defaultPort, path := none, credentials := none, timeout }

def usableCredentials? (c : Client) : Option Credentials :=
  c.credentials.filter Credentials.isUsable

def usesCredentials (c : Client) : Bool :=
  c.usableCredentials?.isSome

/-- The URL of host, port and path before it is read. The path gets a slash in front unless it has
one. -/
def urlText (c : Client) (path : String) : String :=
  let slash := if path.toList.head? = some '/' then "" else "/"
  s!"http://{c.host}:{c.port}{slash}{path}"

def url (c : Client) : Except Error Url :=
  match c.path with
  | none => .error .pathNotSet
  | some path => (Url.parse (c.urlText path)).mapError .invalidUrl

/-- User name and password out of a URL, as credentials. A part that is no text counts as absent;
so do the credentials if that is the user name. -/
def urlCredentials? (u : Url) : Option Credentials :=
  let decode (s : String) : Option String := Utf8.decode? (Url.percentDecode s.toList)
  match decode u.username with
  | none => none
  | some username =>
    let password := u.password.bind decode
    if username.isEmpty ∧ password = none then none
    else some { username, password := password.getD "" }

/-- Whether a text may be the value of a header: it holds no control but the tab. -/
def isHeaderValue (s : String) : Bool :=
  s.toList.all fun c => c == '\t' || (0x20 ≤ c.toNat && c.toNat ≠ 0x7F)

def isRequestHost (u : Url) : Bool :=
  match u.host with
  | some (.domain name) => name.toList.all fun c => !(c ∈ ['"', '\x60', '\x7b', '\x7d'])
  | _ => true

/-- The request of a call. User information in the URL moves into a header of its own, in front of
that for the client's credentials. -/
def request (c : Client) (method : Method) (url : Url) (payload : Option Value)
    (contentType : String) : Request :=
  let mime := s!"application/{contentType}"
  let inUrl := urlCredentials? url
  let authorization (cs : Option Credentials) : List (String × String) :=
    cs.toList.map fun cs => ("authorization", cs.headerValue)
  { method
    url := if inUrl.isSome then url.withoutUserInfo else url
    headers := authorization inUrl ++ [("content-type", mime), ("accept", mime)] ++
      authorization c.usableCredentials? ++ [("user-agent", userAgent)]
    body := payload.elim "" Value.compact }

/-- The answer made of what the controller did with a request. Only a client that sets a time runs
out of it, and tells it in whole seconds. -/
def answer (c : Client) (request : Request) : Option Exchange → Except Error Response
  | none => .error (.transport (.unreachable request.url))
  | some .drop => .error (.transport (.dropped request.url))
  | some .truncate => .error (.transport .truncated)
  | some .hang =>
    match c.timeout with
    | some milliseconds => .error (.timeout (milliseconds / 1000))
    | none => .error (.transport (.dropped request.url))
  | some (.reply status body) =>
    .ok { status, reason := reasonPhrase status
          body := if hasNoBody status then "" else Utf8.decodeLossy body }

/-- Sends one request and waits for the answer, which is taken as it is: no status makes it send
another. -/
def send (c : Client) (request : Request) : Call Response := fun controller =>
  let r := controller.receive request
  (c.answer request r.1, r.2)

def call (c : Client) (method : Method) (payload : Option Value) (contentType : String) :
    Call Response :=
  match c.url with
  | .error e => throw e
  | .ok url =>
    let request := c.request method url payload contentType
    if !isHeaderValue contentType then throw (.transport (.unsendable none))
    else if !isRequestHost request.url then throw (.transport (.unsendable (some request.url)))
    else c.send request

def get (c : Client) : Call Response :=
  c.call .get none jsonType

def put (c : Client) (data : Value) : Call Response :=
  c.call .put (some data) jsonType

def post (c : Client) (data : Value) : Call Response :=
  c.call .post (some data) jsonType

def remove (c : Client) : Call Response :=
  c.call .delete none jsonType

end Client

end FlowConsole.Http
