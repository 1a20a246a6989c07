import FlowConsole.Command.Basic
/-!
The flags of the command line: how each is written, what it takes, and the environment variable that
stands in for it.
-/
namespace FlowConsole.Command

inductive Flag
  | profile
  | host
  | port
  | username
  | password
  | noAuth
  | timeout
  | node
  | table
  | fixturesDir
  | extension
  | output
  | color
  | verbose
  | quiet
  | yes
  | force
  | help
  | version
deriving DecidableEq, Repr

/-- Why the command line cannot be used, or what it asks for instead of a command. The version is
that of a command, given by the names that lead to it. -/
inductive UsageError
  | help
  | version (names : List String)
  | helpForMissingCommand
  | missingCommand
  | unknownCommand
  | unknownArgument
  | missingArgument
  | invalidValue
  | malformedValue
  | valueNotTaken
  | repeatedFlag
deriving DecidableEq, Repr

def UsageError.exitCode : UsageError → Nat
  | .help => 0
  | .version _ => 0
  | _ => 2

def UsageError.inside (name : String) : UsageError → UsageError
  | .version names => .version (name :: names)
  | e => e

def programName : String := "cableflow"

def programVersion : String := "0.1.0"

/-- What is printed on output: the version of a command, whose names are joined. Help is left to the
outer layer. -/
def UsageError.output : UsageError → String
  | .version names => "-".intercalate (programName :: names) ++ s!" {programVersion}\n"
  | _ => ""

inductive FlagValue
  | text (value : String)
  | number (value : Nat)
  | format (value : Report.Format)
  | color (value : Color)
  | on
  | count (value : Nat)
deriving DecidableEq, Repr

/-- Where a flag's value comes from. A command line is stronger than the environment. -/
inductive Source
  | environment
  | commandLine
deriving DecidableEq, Repr

namespace Flag

/-- The flags that every command takes, in the order in which the environment is asked for them. -/
def everywhere : List Flag :=
  [.profile, .host, .port, .username, .password, .noAuth, .timeout, .node, .table, .fixturesDir,
    .extension, .output, .color, .verbose, .quiet, .yes, .help, .version]

def long : Flag → String
  | .profile => "profile"
  | .host => "host"
  | .port => "port"
  | .username => "username"
  | .password => "password"
  | .noAuth => "no-auth"
  | .timeout => "timeout"
  | .node => "node"
  | .table => "table"
  | .fixturesDir => "fixtures-dir"
  | .extension => "extension"
  | .output => "output"
  | .color => "color"
  | .verbose => "verbose"
  | .quiet => "quiet"
  | .yes => "yes"
  | .force => "force"
  | .help => "help"
  | .version => "version"

def short? : Flag → Option Char
  | .profile => some 'p'
  | .host => some 'H'
  | .port => some 'P'
  | .username => some 'u'
  | .timeout => some 't'
  | .fixturesDir => some 'd'
  | .extension => some 'e'
  | .output => some 'o'
  | .verbose => some 'v'
  | .quiet => some 'q'
  | .yes => some 'y'
  | .help => some 'h'
  | .version => some 'V'
  | _ => none

def environmentName? : Flag → Option String
  | .profile => some "CABLEFLOW_PROFILE"
  | .host => some "CABLEFLOW_HOST"
  | .port => some "CABLEFLOW_PORT"
  | .username => some "CABLEFLOW_USERNAME"
  | .password => some "CABLEFLOW_PASSWORD"
  | .timeout => some "CABLEFLOW_TIMEOUT"
  | .fixturesDir => some "CABLEFLOW_FIXTURES_DIR"
  | .output => some "CABLEFLOW_OUTPUT"
  | _ => none

def takesValue : Flag → Bool
  | .noAuth => false
  | .verbose => false
  | .quiet => false
  | .yes => false
  | .force => false
  | .help => false
  | .version => false
  | _ => true

def signedDigits? (s : List Char) : Option (Bool × Nat) :=
  let (negative, digits) := match s with
    | '-' :: rest => (true, rest)
    | '+' :: rest => (false, rest)
    | s => (false, s)
  if digits.isEmpty ∨ !digits.all Char.isDigit then none
  else some (negative, digits.foldl (fun n c => n * 10 + (c.toNat - 48)) 0)

/-- A port. Minus zero is zero. -/
def port? (s : String) : Option Nat :=
  match signedDigits? s.toList with
  | some (negative, n) => if (negative ∧ n ≠ 0) ∨ n ≥ 0x10000 then none else some n
  | none => none

def number? (s : String) : Option Nat :=
  match signedDigits? s.toList with
  | some (negative, n) => if negative ∨ n ≥ 0x10000000000000000 then none else some n
  | none => none

def require {α : Type} (problem : UsageError) (a : Option α) : Except UsageError α :=
  match a with
  | some a => .ok a
  | none => .error problem

def read (f : Flag) (s : String) : Except UsageError FlagValue :=
  match f with
  | .port => (require .malformedValue (port? s)).map .number
  | .timeout => (require .malformedValue (number? s)).map .number
  | .node => (require .malformedValue (number? s)).map .number
  | .table => (require .malformedValue (number? s)).map .number
  | .fixturesDir => if s.isEmpty then .error .invalidValue else .ok (.text s)
  | .output => (require .invalidValue (Report.Format.ofName? s)).map .format
  | .color => (require .invalidValue (Color.ofName? s)).map .color
  | _ => .ok (.text s)

def ofShort? (flags : List Flag) (c : Char) : Option Flag :=
  flags.find? fun f => f.short? == some c

def ofLong? (flags : List Flag) (name : List Char) : Option Flag :=
  flags.find? fun f => f.long.toList == name

end Flag

abbrev Given := List (Flag × Source × FlagValue)

namespace Given

def value? (g : Given) (f : Flag) : Option FlagValue :=
  (g.lookup f).map Prod.snd

def text? (g : Given) (f : Flag) : Option String :=
  match g.value? f with
  | some (.text s) => some s
  | _ => none

def number? (g : Given) (f : Flag) : Option Nat :=
  match g.value? f with
  | some (.number n) => some n
  | _ => none

def count (g : Given) (f : Flag) : Nat :=
  match g.value? f with
  | some (.count n) => n
  | _ => 0

def has (g : Given) (f : Flag) : Bool :=
  (g.lookup f).isSome

def set (g : Given) (f : Flag) (source : Source) (value : FlagValue) : Given :=
  (g.filter fun e => e.1 ≠ f) ++ [(f, source, value)]

def isWeak (g : Given) (f : Flag) : Bool :=
  (g.lookup f).map Prod.fst == some .environment

/-- Flags of a command and of the command inside it. The inner one wins unless only the environment
speaks for it and the outer one was written. -/
def merge (outer inner : Given) : Given :=
  (outer.filter fun e => !inner.has e.1 || (e.2.1 == .commandLine && inner.isWeak e.1)) ++
    inner.filter fun e =>
      !outer.has e.1 || outer.isWeak e.1 || !inner.isWeak e.1

def options (g : Given) : Options :=
  { profile := g.text? .profile, host := g.text? .host, port := g.number? .port
    username := g.text? .username, password := g.text? .password, noAuth := g.has .noAuth
    timeout := g.number? .timeout, node := g.number? .node, table := g.number? .table
    fixturesDir := g.text? .fixturesDir, extension := g.text? .extension
    output := match g.value? .output with
      | some (.format f) => some f
      | _ => none
    color := match g.value? .color with
      | some (.color c) => c
      | _ => .auto
    verbose := g.count .verbose, quiet := g.has .quiet, yes := g.has .yes }

end Given

end FlowConsole.Command
