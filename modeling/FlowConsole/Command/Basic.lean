import FlowConsole.Report.Format
/-!
The commands, and the options that go with each of them.
-/
namespace FlowConsole

namespace Command

inductive Shell
  | bash
  | elvish
  | fish
  | powershell
  | zsh
deriving DecidableEq, Repr

namespace Shell

def all : List Shell := [.bash, .elvish, .fish, .powershell, .zsh]

def name : Shell → String
  | .bash => "bash"
  | .elvish => "elvish"
  | .fish => "fish"
  | .powershell => "powershell"
  | .zsh => "zsh"

def ofName? (s : String) : Option Shell :=
  all.find? fun x => x.name == s

end Shell

inductive Color
  | auto
  | always
  | never
deriving DecidableEq, Repr

namespace Color

def all : List Color := [.auto, .always, .never]

def name : Color → String
  | .auto => "auto"
  | .always => "always"
  | .never => "never"

def ofName? (s : String) : Option Color :=
  all.find? fun x => x.name == s

/-- Whether output is coloured that does not go to a terminal. -/
def isOn : Color → Bool
  | .always => true
  | _ => false

end Color

/-- Commands on flows. A record is named by a file, a fixture or a built-in record. -/
inductive Flows
  | list
  | add (record : String)
  | addSeveral
  | update (record : String)
  | remove (record : String)
  | removeAll
deriving DecidableEq, Repr

inductive Cmts
  | add (record : String)
  | remove (record : String)
deriving DecidableEq, Repr

/-- Commands on fixtures. A fixture goes by its name or its letter. -/
inductive Fixtures
  | list
  | «show» (fixture : String)
deriving DecidableEq, Repr

inductive Configuration
  | init (force : Bool)
  | «show»
  | path
  | profiles
deriving DecidableEq, Repr

structure Options where
  profile : Option String
  host : Option String
  port : Option Nat
  username : Option String
  password : Option String
  noAuth : Bool
  timeout : Option Nat
  node : Option Nat
  table : Option Nat
  fixturesDir : Option String
  extension : Option String
  output : Option Report.Format
  color : Color
  verbose : Nat
  quiet : Bool
  yes : Bool
deriving DecidableEq, Repr

end Command

inductive Command
  | menu
  | topology
  | flows (command : Command.Flows)
  | stats
  | cmts (command : Command.Cmts)
  | fixtures (command : Command.Fixtures)
  | config (command : Command.Configuration)
  | completions (shell : Command.Shell)
deriving DecidableEq, Repr

/-- Whether a command works with fixtures on its way to the controller: those that name a record or
offer a menu. -/
def Command.needsFixtures : Command → Bool
  | .menu => true
  | .cmts _ => true
  | .flows (.add _) => true
  | .flows (.update _) => true
  | .flows (.remove _) => true
  | _ => false

end FlowConsole
