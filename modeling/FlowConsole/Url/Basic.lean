import FlowConsole.Url.Address
/-!
URLs with a host.
-/
namespace FlowConsole

namespace Url

inductive Host
  | domain (name : String)
  | ipv4 (address : Nat)
  | ipv6 (pieces : List Nat)
deriving DecidableEq, Repr

def Host.text : Host → String
  | .domain name => name
  | .ipv4 address => ipv4Text address
  | .ipv6 pieces => s!"[{ipv6Text pieces}]"

end Url

/-- A URL in normal form. Every part is percent-encoded already. The port is left out where it is
the scheme's own. -/
structure Url where
  scheme : String
  username : String
  password : Option String
  host : Option Url.Host
  port : Option Nat
  path : String
  query : Option String
  fragment : Option String
deriving DecidableEq, Repr

namespace Url

def defaultPort? (scheme : String) : Option Nat :=
  match scheme with
  | "http" => some 80
  | "ws" => some 80
  | "https" => some 443
  | "wss" => some 443
  | "ftp" => some 21
  | _ => none

def effectivePort? (u : Url) : Option Nat :=
  u.port.or (defaultPort? u.scheme)

/-- User name and password in front of the host, with an `@` after them; nothing if both are
empty. -/
def userInfoText (u : Url) : String :=
  match u.password with
  | some p => s!"{u.username}:{p}@"
  | none => if u.username.isEmpty then "" else s!"{u.username}@"

def originText (u : Url) : String :=
  match u.host with
  | some host =>
    s!"{u.scheme}://{u.userInfoText}{host.text}" ++ u.port.elim "" fun p => s!":{p}"
  | none => s!"{u.scheme}:"

def text (u : Url) : String :=
  u.originText ++ u.path ++ (u.query.elim "" fun q => s!"?{q}") ++
    u.fragment.elim "" fun f => s!"#{f}"

def withoutFragment (u : Url) : Url :=
  { u with fragment := none }

def withoutUserInfo (u : Url) : Url :=
  { u with username := "", password := none }

end Url

end FlowConsole
