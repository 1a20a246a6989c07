import FlowConsole.Http.Status
import FlowConsole.Url.Basic
/-!
The controller at the other end, as a client sees it: a script of what it does with the requests
that arrive, and a log of those.
-/
namespace FlowConsole.Http

inductive Method
  | get
  | put
  | post
  | delete
  | other (name : String)
deriving DecidableEq, Repr

def Method.name : Method → String
  | .get => "GET"
  | .put => "PUT"
  | .post => "POST"
  | .delete => "DELETE"
  | .other name => name

def Method.ofName (name : String) : Method :=
  match name with
  | "GET" => .get
  | "PUT" => .put
  | "POST" => .post
  | "DELETE" => .delete
  | name => .other name

/-- A request as it goes out. Headers stand in the order in which they were set; one may stand
twice. -/
structure Request where
  method : Method
  url : Url
  headers : List (String × String)
  body : String
deriving DecidableEq, Repr

/-- What a controller does with a request. A reply is a status and a body: it carries no headers,
and so never refers the client to another place. `hang` keeps the connection without a reply until
the client's time runs out, or, for a client that sets no time, until the connection fails. -/
inductive Exchange
  | reply (status : Nat) (body : List UInt8)
  | drop
  | truncate
  | hang
deriving DecidableEq, Repr

/-- A controller: whether a connection to it succeeds, what it will do with the next requests, and
those it has received, in order. -/
structure Controller where
  reachable : Bool
  script : List Exchange
  log : List Request
deriving Repr

namespace Controller

def unreachable : Controller :=
  { reachable := false, script := [], log := [] }

def scripted (script : List Exchange) : Controller :=
  { reachable := true, script, log := [] }

/-- Takes a request. Without a connection nothing is received; once the script has ended every
connection is dropped. -/
def receive (c : Controller) (request : Request) : Option Exchange × Controller :=
  if c.reachable then
    (some (c.script.headD .drop), { c with script := c.script.tail, log := c.log ++ [request] })
  else (none, c)

end Controller

end FlowConsole.Http
