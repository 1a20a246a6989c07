import FlowConsole.Harness.Basic
/-!
The configuration: named controller profiles, and defaults that hold for all of them.
-/
namespace FlowConsole

/-- What holds unless a profile or a flag says otherwise. `timeout` is in seconds. -/
structure Defaults where
  output : String
  timeout : Option Nat
  fixturesDir : String
  extension : String
deriving DecidableEq, Repr

/-- How to reach one controller. Without `auth` no credentials are sent. The password may stand here
or in the environment variable that `passwordEnv` names. `timeout` is in seconds. -/
structure Profile where
  host : String
  port : Nat
  auth : Bool
  username : Option String
  password : Option String
  passwordEnv : Option String
  timeout : Option Nat
  node : Nat
  table : Nat
deriving DecidableEq, Repr

/-- A configuration. No two profiles have one name. They may stand in any order; those of a loaded
configuration ascend. -/
structure Config where
  defaultProfile : Option String
  defaults : Defaults
  profiles : List (String × Profile)
deriving DecidableEq, Repr

def Defaults.standard : Defaults :=
  { output := "table", timeout := none, fixturesDir := ".", extension := "json" }

namespace Profile

def standardUsername : String := "admin"

def standardPassword : String := "admin"

def blank : Profile :=
  { host := "127.0.0.1", port := Restconf.defaultPort, auth := true, username := none
    password := none, passwordEnv := none, timeout := none, node := 1, table := 0 }

def standard : Profile :=
  { blank with username := some standardUsername, password := some standardPassword }

end Profile

namespace Config

def standardProfile : String := "default"

def standard : Config :=
  { defaultProfile := some standardProfile, defaults := .standard, profiles := [] }

def starter : Config :=
  { standard with profiles := [(standardProfile, .standard)] }

/-- A profile by name, or the default one. A default profile that does not exist has the built-in
settings; `none` means that the profile asked for by name does not exist. -/
def profile? (c : Config) (name : Option String) : Option (String × Profile) :=
  match name with
  | some name => (c.profiles.lookup name).map fun p => (name, p)
  | none =>
    let name := c.defaultProfile.getD standardProfile
    some (name, (c.profiles.lookup name).getD .standard)

def profileNames (c : Config) : List String :=
  c.profiles.map Prod.fst

end Config

end FlowConsole
