import BlockPilot.CommandLine.Arguments
import BlockPilot.CommandLine.Report
import BlockPilot.CommandLine.Watch
import BlockPilot.Config.Load
import BlockPilot.Program.Examples

/-!
# Performing a command line

The configuration is loaded first, then the command is done. The first failure ends it all and is
reported.
-/

namespace BlockPilot.CommandLine

/-- How a command line ends. -/
inductive Exit where
  | success
  | failure
  /-- The arguments were wrong. -/
  | misuse
  /-- There was no room for the events. -/
  | crash
  deriving DecidableEq

def Exit.code : Exit → Nat
  | .success => 0
  | .failure => 1
  | .misuse => 2
  | .crash => 101

/-- Why a command ends before its time. -/
inductive Abort where
  | failed (report : Report)
  | noRoom
  deriving DecidableEq

namespace Abort

def exit : Abort → Exit
  | .failed _ => .failure
  | .noRoom => .crash

def lines : Abort → List String
  | .failed report => report.lines
  | .noRoom => ["capacity overflow"]

end Abort

variable {m : Type → Type} [Monad m] (host : Host m)

/-! ## Runs -/

/-- The channel that a configuration gives. -/
def channel (config : Config) (dryRun : Bool) : Channel :=
  if dryRun then .recorder (.new config.device.settleDelay)
  else .link (.new config.device.settleDelay config.device.address)

/-- What is printed at the end of a run. -/
def verdict? : Answer → Option String
  | .ran .completed 0 => none
  | .ran .completed errors => some ("⚠️  " ++ toString errors ++ " block(s) failed")
  | .ran .stopped _ => some "⏹️  Run stopped early"
  | .ran .alreadyRunning _ => some "⏳ A program is already running"
  | .tested _ => none

/-- The controller for a command, if there is room for its events. -/
def controller (config : Config) (dryRun : Bool) : ExceptT Abort m Controller :=
  match Controller.ofConfig? (channel config dryRun) config with
  | some c => pure c
  | none => throw .noRoom

def runProgram (logging : Logging) (config : Config) (dryRun : Bool) (p : Program) :
    ExceptT Abort m Unit := do
  if p.isEmpty then host.print "⚠️  Program has no blocks, nothing to run"
  else
    let c ← controller config dryRun
    host.print ("🤖 Robot at " ++ c.channel.address ++ (if dryRun then " (dry run)" else ""))
    let call ← supervise (m := m) host logging c (.run p)
    (call.answer.bind verdict?).forM fun line => host.print line

def testConnection (logging : Logging) (config : Config) : ExceptT Abort m Unit := do
  let c ← controller config false
  host.print ("📡 Testing " ++ c.channel.address)
  let _ ← supervise (m := m) host logging c .testConnection

/-! ## Other commands -/

/-- The program in a file. -/
def readProgram (path : String) : ExceptT Abort m Program := do
  match ← liftM (host.files.readText (.ofText path)) with
  | .error fault => throw (.failed ⟨"Failed to read program " ++ path, [fault.message]⟩)
  | .ok text => match Program.parse text with
    | .error fault => throw (.failed ⟨"Invalid program " ++ path, [fault.message]⟩)
    | .ok p => return p

/-- Passes a failure on. -/
def orReport {α : Type} : Except Failure α → ExceptT Abort m α
  | .ok v => pure v
  | .error failure => throw (.failed (.ofFailure failure))

def ProgramSource.program (slots : Slots) : ProgramSource → ExceptT Abort m Program
  | .file path => readProgram host path
  | .example name => orReport (Examples.get name)
  | .slot name => do orReport (← slots.load (m := m) host.files name)

/-- A text with spaces behind it, up to a width. -/
def padded (width : Nat) (text : String) : String :=
  text.pushn ' ' (width - text.length)

def printExamples : m Unit := do
  host.print "📚 Example programs:"
  Examples.all.forM fun (name, p) =>
    host.print ("   " ++ padded 8 name ++ " " ++ toString p.count ++ " blocks")

def printSlots (slots : Slots) : ExceptT Abort m Unit := do
  let names ← orReport (← slots.list (m := m) host.files)
  if names.isEmpty then host.print ("No saved programs in " ++ slots.directory)
  names.forM fun name => host.print ("   " ++ name)

def saveProgram (logging : Logging) (slots : Slots) (name : String) (p : Program) :
    ExceptT Abort m Unit := do
  let path ← orReport (← slots.save (m := m) host.files name p)
  logLine (m := m) host logging (.saved name path)
  host.print ("💾 Saved to '" ++ name ++ "' (" ++ path ++ ")")

/-! ## Command lines -/

/-- The configuration, with the options of the command line over it. -/
def configure (env : List (String × String)) (options : Options) :
    ExceptT Abort m Config := do
  let file := options.config.getD Config.defaultFile
  let failed := match options.config with
    | some file => "Failed to load config from " ++ file
    | none => "Failed to load configuration"
  let config ← match ← Config.load (m := m) host.files env file with
    | .ok config => pure config
    | .error failure => throw (.failed ((Report.ofFailure failure).because failed))
  let config ← match options.device with
    | some address => orReport (config.setAddress (Text.trim address)).validated
    | none => pure config
  return match options.logFormat with
    | some format => { config with application := { config.application with logFormat := format } }
    | none => config

def Command.perform (logging : Logging) (config : Config) :
    Command → ExceptT Abort m Unit :=
  let slots : Slots := ⟨config.storage.programDirectory⟩
  fun
  | .run source dryRun => do
    runProgram host logging config dryRun (← source.program host slots)
  | .testConnection => CommandLine.testConnection host logging config
  | .examples => printExamples (m := m) host
  | .save source name => do saveProgram host logging slots name (← source.program host slots)
  | .slots => printSlots host slots

def Invocation.perform (env : List (String × String)) (i : Invocation) :
    ExceptT Abort m Unit := do
  let config ← configure host env i.options
  match LogOptions.ofConfig? config with
  | none => throw (.failed ⟨Level.unknownText config.application.logLevel, []⟩)
  | some options => i.command.perform host (.ofOptions options env) config

/-- What is said about arguments that are wrong. -/
def usage : List String := [
  "Usage: botblocks [--config FILE] [--device ADDRESS] [--log-format FORMAT] COMMAND",
  "",
  "Commands:",
  "  run FILE | --example NAME | --slot NAME [--dry-run]",
  "  test-connection",
  "  examples",
  "  save --file FILE | --example NAME [--slot NAME]",
  "  slots"]

/-- Performs a command line in an environment. -/
def perform (env : List (String × String)) (arguments : List String) : m Exit := do
  match parse? arguments with
  | none =>
    usage.forM host.complain
    return .misuse
  | some i => match ← i.perform host env with
    | .ok () => return .success
    | .error abort =>
      abort.lines.forM host.complain
      return abort.exit

end BlockPilot.CommandLine
