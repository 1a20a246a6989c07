import FlowConsole.Command.Arguments
import FlowConsole.Command.Error
import FlowConsole.Command.Settings
import FlowConsole.Config.Load
import FlowConsole.Fixture.Scan
import FlowConsole.Menu.Session
/-!
Running a command.

A command reads the configuration first, then the fixtures if it works with them, and only then
calls the controller. What it prints and what it does to files and to the controller stays if it
fails.
-/
namespace FlowConsole.Command

open Http (Controller)
open Json (Value)
open Restconf (Session)

/-- What surrounds a run and does not change: the home directory of the account, if it has one, the
environment and the input. -/
structure Surroundings where
  home : Option String
  environment : Environment
  input : String

/-- What a run changes: the files, the controller, and what has been printed. Notices are kept apart
from output. -/
structure Effects where
  files : Files.Tree
  controller : Controller
  output : String
  notices : String

abbrev Running (α : Type) := ExceptT Error (StateM Effects) α

def homeVariable : String := "HOME"

def configHomeVariable : String := "XDG_CONFIG_HOME"

/-- Where the configuration lies: below the directory for configurations if its variable gives an
absolute path, else below the home directory. Where there is none, the variable of the other
directory is not looked at. -/
def Surroundings.configPath (s : Surroundings) : String :=
  let home := s.environment.lookup homeVariable
  let directory :=
    match (home.filter fun path => !path.isEmpty).or s.home with
    | some home =>
      ((s.environment.lookup configHomeVariable).filter Files.Path.isAbsolute).getD
        (Files.Path.join home ".config")
    | none => Files.Path.join (home.getD ".") ".config"
  Files.Path.join (Files.Path.join directory "cableflow") "config.toml"

namespace Running

def print (text : String) : Running Unit :=
  modify fun e => { e with output := e.output ++ text }

def notify (text : String) : Running Unit :=
  modify fun e => { e with notices := e.notices ++ text }

/-- Prints a result on lines of its own, unless the run is quiet or there is nothing to print. -/
def printResult (quiet : Bool) (text : String) : Running Unit :=
  if quiet then pure () else print (Menu.onLines text)

def ofExcept {α : Type} : Except Error α → Running α
  | .ok a => pure a
  | .error e => throw e

def onSession {α : Type} (settings : Settings) (action : Harness.Action α) : Running α := fun e =>
  let r := action (Harness.connect settings.controller e.controller)
  (r.1.mapError .ofHarness, { e with controller := r.2.controller })

/-! ## Configuration -/

def loadedConfig (s : Surroundings) (files : Files.Tree) : Except Config.Error Config :=
  (Config.load files s.configPath s.environment).mapError
    (.unloadable (Files.Path.displayed files.current s.configPath))

/-- An error of the configuration, with the profiles that are on disk. -/
def configError (s : Surroundings) (files : Files.Tree) (e : Config.Error) : Error :=
  let available := match loadedConfig s files with
    | .ok c => c.profileNames
    | .error _ => []
  .ofConfig available s.configPath e

def ofConfig {α : Type} (s : Surroundings) (r : Except Config.Error α) : Running α := do
  let e ← get
  ofExcept (r.mapError (configError s e.files))

def settings (s : Surroundings) (o : Options) : Running Settings := do
  let e ← get
  ofConfig s do
    let c ← loadedConfig s e.files
    Settings.ofConfig c o s.environment

def settingsLines (s : Settings) : List String :=
  let c := s.controller
  let timeout := c.timeout.elim "none" fun t => s!"{t / 1000}s"
  let username := c.login.elim "(no auth)" (·.username)
  [s!"Profile:   {s.profile}", s!"Host:      {c.host}:{c.port}", s!"Username:  {username}",
    s!"Timeout:   {timeout}", s!"Target:    openflow:{c.node} table {c.table}",
    s!"Fixtures:  {s.fixturesDir} (*.{s.extension})"]

/-- The JSON form of settings. The password is not part of it. -/
def settingsJson (s : Settings) : Value :=
  let c := s.controller
  .object [("profile", .string s.profile), ("host", .string c.host), ("port", .ofNat c.port),
    ("username", .ofString? (c.login.map (·.username))),
    ("timeout_secs", c.timeout.elim .null fun t => .ofNat (t / 1000)), ("node", .ofNat c.node),
    ("table", .ofNat c.table), ("fixtures_dir", .string s.fixturesDir),
    ("extension", .string s.extension)]

def settingsText (s : Settings) : String :=
  match s.format with
  | .table => Report.joinLines (settingsLines s)
  | f => f.jsonText (settingsJson s)

/-- Writes a configuration to start from. One that exists is only replaced on demand. -/
def initialise (s : Surroundings) (quiet force : Bool) : Running Unit := do
  let e ← get
  let path := s.configPath
  if e.files.exists path && !force then
    throw (.validation "config" s!"{path} already exists (use --force to overwrite)")
  let r := Config.save .starter path e.files
  set { e with files := r.2 }
  ofConfig s r.1
  if !quiet then
    notify s!"✓ Configuration written to {path}\n  Test it: cableflow topology\n"

def profileLine (c : Config) (name : String) : String :=
  if name = c.defaultProfile.getD Config.standardProfile then s!"{name} (default)\n"
  else s!"{name}\n"

def configuration (s : Surroundings) (o : Options) : Configuration → Running Unit
  | .init force => initialise s o.quiet force
  | .show => do
    let settings ← settings s o
    printResult o.quiet (settingsText settings)
  | .path => print s!"{s.configPath}\n"
  | .profiles => do
    let e ← get
    let c ← ofConfig s (loadedConfig s e.files)
    if c.profiles.isEmpty then notify "No profiles configured. Run: cableflow config init\n"
    else print (String.join (c.profileNames.map (profileLine c)))

/-! ## Fixtures -/

def scan (settings : Settings) (files : Files.Tree) : Except Error Fixture.Store :=
  (Fixture.scan files settings.fixturesDir settings.extension).mapError
    (.fixtures settings.fixturesDir)

def fixtures (settings : Settings) (command : Fixtures) : Running Unit := do
  let e ← get
  let store ← ofExcept (scan settings e.files)
  match command with
  | .list => printResult settings.quiet (Report.catalogueText settings.format store.catalogue)
  | .show name =>
    match (store.get? name).or ((store.select? name).map Prod.snd) with
    | some text => printResult settings.quiet (Report.fixtureText settings.format text)
    | none => throw (.recordNotFound name)

/-! ## Controller -/

/-- The record of an argument: that of a file if it names one, else that of a fixture or a built-in
record. -/
def record (h : Harness) (argument : String) : Running Value := do
  let e ← get
  if e.files.isFile argument then
    match e.files.readText argument with
    | .error problem => throw (.files problem)
    | .ok text =>
      match Json.parse text with
      | .ok v => pure v
      | .error problem =>
        throw (.validation "record" s!"{argument}: invalid JSON: {problem.message}")
  else ofExcept ((h.record argument).mapError .ofHarness)

def change (h : Harness) (settings : Settings)
    (operation : Value → Restconf.Action Restconf.Outcome) (argument : String) : Running Unit := do
  let v ← record h argument
  let outcome ← onSession settings (Harness.lift (operation v))
  printResult settings.quiet (Report.outcomeText settings.format settings.color outcome)

def flows (h : Harness) (settings : Settings) : Flows → Running Unit
  | .list => do
    let listing ← onSession settings h.listFlows
    printResult settings.quiet (Report.flowsText settings.format listing)
  | .add argument => change h settings Session.addFlow argument
  | .addSeveral => do
    let outcomes ← onSession settings Harness.addSeveralFlows
    printResult settings.quiet (Report.outcomesText settings.format settings.color outcomes)
  | .update argument => change h settings Session.updateFlow argument
  | .remove argument => change h settings Session.removeFlow argument
  | .removeAll => do
    if !settings.yes then throw (.needsConfirmation "flows remove-all")
    let removals ← onSession settings h.removeAllFlows
    printResult settings.quiet (Report.removalsText settings.format settings.color removals)

def cmts (h : Harness) (settings : Settings) : Cmts → Running Unit
  | .add argument => change h settings Session.addCmts argument
  | .remove argument => change h settings Session.removeCmts argument

def topology (settings : Settings) : Running Unit := do
  let nodes ← onSession settings (Harness.lift Session.topology)
  printResult settings.quiet (settings.format.sortedText nodes)

def statistics (settings : Settings) : Running Unit := do
  let switches ← onSession settings (Harness.lift Session.statistics)
  if switches.isEmpty && settings.format == .table && !settings.quiet then
    notify "No switches reported flow statistics\n"
  else printResult settings.quiet (Report.statisticsText settings.format switches)

/-- Runs the menu on the input. Its dialogue is printed in quiet runs too. -/
def menu (s : Surroundings) (h : Harness) (settings : Settings) : Running Unit := fun e =>
  let session := Harness.connect settings.controller e.controller
  let t := Menu.run h { format := settings.format, color := settings.color } session s.input
  (t.error.elim (.ok ()) fun problem => .error (.ofHarness problem),
    { e with output := e.output ++ t.output, controller := t.session.controller })

def notForController : String := "command dispatched without a controller handler"

def onController (s : Surroundings) (h : Harness) (settings : Settings) : Command → Running Unit
  | .menu => menu s h settings
  | .topology => topology settings
  | .flows command => flows h settings command
  | .stats => statistics settings
  | .cmts command => cmts h settings command
  | .fixtures _ => throw (.internal notForController)
  | .config _ => throw (.internal notForController)
  | .completions _ => throw (.internal notForController)

def namingProfile (profile : String) (run : Running Unit) : Running Unit := fun e =>
  let r := run e
  (r.1.mapError (.forProfile profile), r.2)

/-- Runs a command. Fixtures that cannot be read are no fixtures to a command on the controller.
Completions are not made here. -/
def command (s : Surroundings) (o : Options) : Command → Running Unit
  | .config c => configuration s o c
  | .completions _ => pure ()
  | .fixtures c => do fixtures (← settings s o) c
  | c => do
    let settings ← settings s o
    let e ← get
    let store := if c.needsFixtures then (scan settings e.files).toOption.getD .empty else .empty
    namingProfile settings.profile
      (onController s (.ofSettings settings.controller store) settings c)

end Running

/-- Runs a command line that has been read. Without a command it is the menu. -/
def Arguments.run (s : Surroundings) (a : Arguments) (e : Effects) :
    Except Error Unit × Effects :=
  Running.command s a.options (a.command.getD .menu) e

end FlowConsole.Command
