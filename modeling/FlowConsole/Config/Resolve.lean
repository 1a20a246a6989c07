import FlowConsole.Config.Environment
import FlowConsole.Config.Error
import FlowConsole.Url.Reader
/-!
What a profile comes to: the login that it sends and the controller that it reaches.
-/
namespace FlowConsole

open Config (Error)
open Harness (Login Settings)

/-- A host is accepted if a URL can be made of it and the port, with no path of its own. -/
def Config.checkHost (host : String) (port : Nat) : Except Error Unit :=
  if host.isEmpty then .error (.invalid "host" "host is empty")
  else
    match Url.parse s!"http://{host}:{port}/" with
    | .error e => .error (.invalid "host" s!"'{host}': {e.message}")
    | .ok url =>
      if url.host.isNone ∨ url.path ≠ "/" then
        .error (.invalid "host" s!"'{host}' is not a bare host name")
      else .ok ()

namespace Profile

def environmentPassword? (p : Profile) (environment : Environment) : Option String :=
  p.passwordEnv.bind fun name => List.lookup name environment

/-- The password: that of the environment, else the one written down, else the stock one. -/
def chosenPassword (p : Profile) (environment : Environment) : String :=
  ((p.environmentPassword? environment).or p.password).getD standardPassword

/-- The login, if the profile sends one. An empty user name means none. -/
def login? (p : Profile) (environment : Environment) : Option Login :=
  let username := p.username.getD standardUsername
  if p.auth ∧ !username.isEmpty then
    some { username, password := p.chosenPassword environment }
  else none

def milliseconds (seconds : Nat) : Nat := seconds * 1000

def controller (p : Profile) (defaults : Defaults) (environment : Environment) :
    Except Error Settings := do
  Config.checkHost p.host p.port
  .ok { host := p.host, port := p.port, login := p.login? environment
        timeout := (p.timeout.or defaults.timeout).map milliseconds
        node := p.node, table := p.table }

end Profile

end FlowConsole
