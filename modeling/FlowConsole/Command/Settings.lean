import FlowConsole.Command.Basic
import FlowConsole.Config.Resolve
/-!
What a command works with: a profile of the configuration, with the options over it.
-/
namespace FlowConsole.Command

open Harness (Login)

structure Settings where
  profile : String
  controller : Harness.Settings
  fixturesDir : String
  extension : String
  format : Report.Format
  color : Bool
  quiet : Bool
  yes : Bool
deriving DecidableEq, Repr

/-- The login with the options over it. Without a login before them, options start from empty ones;
an empty user name means no login. -/
def Options.login? (o : Options) (login : Option Login) : Option Login :=
  if o.noAuth then none
  else if o.username.isNone ∧ o.password.isNone then login
  else
    let username := o.username.getD (login.elim "" (·.username))
    let password := o.password.getD (login.elim "" (·.password))
    if username.isEmpty then none else some { username, password }

def Options.controller (o : Options) (c : Harness.Settings) :
    Except Config.Error Harness.Settings := do
  let port := o.port.getD c.port
  if let some host := o.host then
    Config.checkHost host port
  .ok { host := o.host.getD c.host, port, login := o.login? c.login
        timeout := (o.timeout.map Profile.milliseconds).or c.timeout
        node := o.node.getD c.node, table := o.table.getD c.table }

/-- The format that options choose, or else the configured one, whose name may be in any case. -/
def Options.format (o : Options) (configured : String) : Except Config.Error Report.Format :=
  match o.output.or (Report.Format.ofName? (configured.map Char.toLower)) with
  | some f => .ok f
  | none =>
    .error (.invalid "defaults.output" s!"expected table, json or json-compact, got '{configured}'")

def Settings.ofConfig (c : Config) (o : Options) (environment : Environment) :
    Except Config.Error Settings := do
  match c.profile? o.profile with
  | none => .error (.unknownProfile (o.profile.getD ""))
  | some (profile, p) =>
    let controller ← o.controller (← p.controller c.defaults environment)
    let format ← o.format c.defaults.output
    .ok { profile, controller
          fixturesDir := o.fixturesDir.getD c.defaults.fixturesDir
          extension := o.extension.getD c.defaults.extension
          format, color := o.color.isOn, quiet := o.quiet, yes := o.yes }

end FlowConsole.Command
