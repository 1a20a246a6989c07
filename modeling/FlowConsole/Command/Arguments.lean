import FlowConsole.Command.Flag
import FlowConsole.Config.Environment
/-!
Reading the command line.

Each command has arguments of its own: what comes after its name belongs to it and not to the
command around it. So a command is read to its end, with the environment asked for the flags that it
lacks, before what is still open around it. The value of a flag is looked at when the next flag or
operand begins; an argument that means nothing is reported first.
-/
namespace FlowConsole.Command

inductive Grammar
  | command (command : Command)
  | onRecord (command : String → Command)
  | onShell (command : Shell → Command)
  | initialise
  | group (entries : List (List String × Grammar))

namespace Grammar

def flows : Grammar :=
  .group [
    (["list", "ls"], .command (.flows .list)),
    (["add"], .onRecord fun r => .flows (.add r)),
    (["add-several"], .command (.flows .addSeveral)),
    (["update"], .onRecord fun r => .flows (.update r)),
    (["remove", "rm"], .onRecord fun r => .flows (.remove r)),
    (["remove-all"], .command (.flows .removeAll))]

def cmts : Grammar :=
  .group [
    (["add"], .onRecord fun r => .cmts (.add r)),
    (["remove", "rm"], .onRecord fun r => .cmts (.remove r))]

def fixtures : Grammar :=
  .group [
    (["list", "ls"], .command (.fixtures .list)),
    (["show"], .onRecord fun f => .fixtures (.show f))]

def configuration : Grammar :=
  .group [
    (["init"], .initialise),
    (["show"], .command (.config .show)),
    (["path"], .command (.config .path)),
    (["profiles"], .command (.config .profiles))]

def program : Grammar :=
  .group [
    (["menu"], .command .menu),
    (["topology", "topo"], .command .topology),
    (["flows", "f"], flows),
    (["stats"], .command .stats),
    (["cmts"], cmts),
    (["fixtures", "fx"], fixtures),
    (["config"], configuration),
    (["completions"], .onShell .completions)]

def isGroup : Grammar → Bool
  | .group _ => true
  | _ => false

def takesOperand : Grammar → Bool
  | .onRecord _ => true
  | .onShell _ => true
  | _ => false

def flags : Grammar → List Flag
  | .initialise => .force :: Flag.everywhere
  | _ => Flag.everywhere

def child? (name : String) : Grammar → Option (String × Grammar)
  | .group entries =>
    (entries.find? fun e => e.1.contains name).map fun e => (e.1.headD name, e.2)
  | _ => none

def helpName : String := "help"

def names (s : Grammar) (word : String) : Bool :=
  s.isGroup && (word == helpName || (s.child? word).isSome)

def help : Grammar → List String → UsageError
  | _, [] => .help
  | s, word :: rest =>
    match s.child? word with
    | some (_, inner) => help inner rest
    | none => if s.isGroup && word == helpName && rest.isEmpty then .help else .unknownCommand

end Grammar

/-- A flag or operand that has begun and is not looked at yet. -/
inductive Pending
  | flag (flag : Flag) (value : Option String)
  | operand (text : String)
deriving DecidableEq, Repr

structure Progress where
  given : Given
  pending : Option Pending
  operand : Option String
  operandsOnly : Bool
deriving DecidableEq, Repr

def Progress.start : Progress :=
  { given := [], pending := none, operand := none, operandsOnly := false }

structure Arguments where
  options : Options
  command : Option Command

namespace Arguments

structure Reading where
  given : Given
  command : Option Command

def largestCount : Nat := 255

def takeSwitch (f : Flag) (g : Given) : Except UsageError Given :=
  match f with
  | .help => .error .help
  | .version => .error (.version [])
  | .verbose => .ok (g.set f .commandLine (.count (min largestCount (g.count f + 1))))
  | f => if g.has f then .error .repeatedFlag else .ok (g.set f .commandLine .on)

def takeValue (f : Flag) (value : Option String) (g : Given) : Except UsageError Given :=
  match value with
  | none => .error .invalidValue
  | some text =>
    if g.has f then .error .repeatedFlag
    else (f.read text).map fun v => g.set f .commandLine v

def resolve (s : Grammar) (p : Progress) : Except UsageError Progress :=
  match p.pending with
  | none => .ok p
  | some (.flag f value) => do
    let given ← takeValue f value p.given
    .ok { p with given, pending := none }
  | some (.operand text) =>
    match s with
    | .onShell _ =>
      if (Shell.ofName? text).isSome then .ok { p with operand := some text, pending := none }
      else .error .invalidValue
    | _ => .ok { p with operand := some text, pending := none }

/-- A flag without a value, once all before it has been looked at. -/
def enterSwitch (s : Grammar) (f : Flag) (p : Progress) : Except UsageError Progress := do
  let p ← resolve s p
  let given ← takeSwitch f p.given
  .ok { p with given }

/-- A flag that takes a value. One that is attached is looked at right away. -/
def enterValue (s : Grammar) (f : Flag) (attached : Option (List Char)) (p : Progress) :
    Except UsageError Progress := do
  let p ← resolve s p
  match attached with
  | some text =>
    let given ← takeValue f (some (String.ofList text)) p.given
    .ok { p with given }
  | none => .ok { p with pending := some (.flag f none) }

/-- The letters after a hyphen. One that takes a value takes the rest, without an equals sign in
front. -/
def enterShort (s : Grammar) : List Char → Progress → Except UsageError Progress
  | [], p => .ok p
  | c :: rest, p =>
    match Flag.ofShort? s.flags c with
    | none => .error .unknownArgument
    | some f =>
      if f.takesValue then
        let attached := match rest with
          | [] => none
          | '=' :: value => some value
          | value => some value
        enterValue s f attached p
      else do
        let p ← enterSwitch s f p
        enterShort s rest p

/-- The text after two hyphens: a name and perhaps a value after an equals sign. -/
def enterLong (s : Grammar) (text : List Char) (p : Progress) : Except UsageError Progress :=
  let name := text.takeWhile (· != '=')
  let attached := match text.drop name.length with
    | _ :: value => some value
    | [] => none
  match Flag.ofLong? s.flags name with
  | none => .error .unknownArgument
  | some f =>
    if f.takesValue then enterValue s f attached p
    else if attached.isSome then .error .valueNotTaken
    else enterSwitch s f p

def waits (p : Progress) : Bool :=
  match p.pending with
  | some (.flag _ none) => true
  | _ => false

def hasOperand (p : Progress) : Bool :=
  match p.pending with
  | some (.operand _) => true
  | _ => p.operand.isSome

/-- An operand, or an argument too many. After two hyphens the name of a command is no command. -/
def enterOperand (s : Grammar) (word : String) (p : Progress) : Except UsageError Progress :=
  if s.takesOperand ∧ !hasOperand p then do
    let p ← resolve s p
    .ok { p with pending := some (.operand word) }
  else if s.isGroup ∧ !(p.operandsOnly ∧ s.names word) then .error .unknownCommand
  else .error .unknownArgument

def enterWord (s : Grammar) (word : String) (p : Progress) : Except UsageError Progress :=
  match p.pending with
  | some (.flag f none) =>
    if p.operandsOnly then enterOperand s word p
    else .ok { p with pending := some (.flag f (some word)) }
  | _ => enterOperand s word p

def enter (s : Grammar) (arg : String) (p : Progress) : Except UsageError Progress :=
  if p.operandsOnly then enterWord s arg p
  else
    match arg.toList with
    | ['-', '-'] => .ok { p with operandsOnly := true }
    | '-' :: '-' :: text => enterLong s text p
    | '-' :: c :: rest => enterShort s (c :: rest) p
    | _ => enterWord s arg p

def variableOf (environment : Environment) (g : Given) (f : Flag) : Option String :=
  if g.has f then none
  else f.environmentName?.bind fun name => List.lookup name environment

def askEnvironment (environment : Environment) (g : Given) :
    List Flag → Except UsageError Given
  | [] => .ok g
  | f :: rest =>
    match variableOf environment g f with
    | none => askEnvironment environment g rest
    | some text => do
      let value ← f.read text
      askEnvironment environment (g.set f .environment value) rest

def complete (s : Grammar) (g : Given) (operand : Option String) (inner : Option Command)
    (isProgram : Bool) : Except UsageError (Option Command) :=
  match s with
  | .command c => .ok (some c)
  | .onRecord c => (Flag.require .missingArgument operand).map fun r => some (c r)
  | .onShell c => do
    let text ← Flag.require .missingArgument operand
    (Flag.require .invalidValue (Shell.ofName? text)).map fun x => some (c x)
  | .initialise => .ok (some (.config (.init (g.has .force))))
  | .group _ =>
    if inner.isSome ∨ isProgram then .ok inner
    else if g.isEmpty then .error .helpForMissingCommand
    else .error .missingCommand

/-- The end of a command: what is pending, the environment, and what must be there. -/
def finish (environment : Environment) (isProgram : Bool) (s : Grammar) (p : Progress)
    (inner : Option Reading) : Except UsageError Reading := do
  let p ← resolve s p
  let given ← askEnvironment environment p.given s.flags
  let command ← complete s given p.operand (inner.bind (·.command)) isProgram
  .ok { given := given.merge (inner.elim [] (·.given)), command }

def readCommand (environment : Environment) (isProgram : Bool) (s : Grammar) (p : Progress) :
    List String → Except UsageError Reading
  | [] => finish environment isProgram s p none
  | arg :: rest =>
    if !p.operandsOnly ∧ !waits p ∧ s.names arg then
      match s.child? arg with
      | some (name, inner) => do
        let r ← (readCommand environment false inner .start rest).mapError (·.inside name)
        finish environment isProgram s p (some r)
      | none => .error (s.help rest)
    else do
      let p ← enter s arg p
      readCommand environment isProgram s p rest

def parse (environment : Environment) (arguments : List String) :
    Except UsageError Arguments := do
  let r ← readCommand environment true .program .start arguments
  .ok { options := r.given.options, command := r.command }

end Arguments

end FlowConsole.Command
