import BlockPilot.Logging.Format
import BlockPilot.Program.Slots

/-!
# Arguments of the command line

The command line is a command with options. Options of the program as a whole may stand in front of
the command or behind it, and the ones behind it count. The value of an option follows it or an
equals sign; two hyphens end the options. Nothing may be given twice or be left over.
-/

namespace BlockPilot.CommandLine

/-! ## Options and other words -/

/-- What may stand on a command line. -/
structure Grammar where
  /-- Options with a value. -/
  options : List String
  /-- Options without a value. -/
  switches : List String
  /-- Names of commands. -/
  commands : List String
  /-- How many other words there may be. -/
  room : Nat

/-- What stands on a command line up to a command. -/
structure Words where
  options : List (String × String)
  switches : List String
  /-- The other words, last one first. -/
  others : List String
  /-- The command with what stands behind it. -/
  command : Option (String × List String)

namespace Words

def empty : Words := ⟨[], [], [], none⟩

def has (w : Words) (name : String) : Bool :=
  w.switches.contains name || (Keyed.lookup name w.options).isSome

def addOption (g : Grammar) (w : Words) (name value : String) : Option Words :=
  if g.options.contains name && !w.has name then
    some { w with options := (name, value) :: w.options }
  else none

def addSwitch (g : Grammar) (w : Words) (name : String) : Option Words :=
  if g.switches.contains name && !w.has name then
    some { w with switches := name :: w.switches }
  else none

def addOther (g : Grammar) (w : Words) (word : String) : Option Words :=
  if w.others.length < g.room then some { w with others := word :: w.others } else none

end Words

/-- The parts of an option with its value. -/
def splitOption (word : String) : String × Option String :=
  let chars := word.toList
  let name := chars.takeWhile (· != '=')
  match chars.drop name.length with
  | _ :: value => (.ofList name, some (.ofList value))
  | [] => (word, none)

/-- Whether a word is no value but an option; a single hyphen is a value. -/
def isOption (word : String) : Bool :=
  word.toList.head? == some '-' && word != "-"

/-- Reads words behind two hyphens. -/
def scanOthers (g : Grammar) (w : Words) : List String → Option Words
  | [] => some w
  | word :: rest => do scanOthers g (← w.addOther g word) rest

/-- Reads words up to a command. -/
def scan (g : Grammar) (w : Words) : List String → Option Words
  | [] => some w
  | word :: rest =>
    if word = "--" then scanOthers g w rest
    else if isOption word then
      match splitOption word with
      | (name, some value) => do scan g (← w.addOption g name value) rest
      | (name, none) =>
        if g.options.contains name then
          match rest with
          | value :: rest =>
            if isOption value then none
            else do scan g (← w.addOption g name value) rest
          | [] => none
        else do scan g (← w.addSwitch g name) rest
    else if g.commands.contains word then some { w with command := some (word, rest) }
    else do scan g (← w.addOther g word) rest

/-! ## Commands -/

/-- Options of the program as a whole. -/
structure Options where
  config : Option String
  device : Option String
  logFormat : Option LogFormat
  deriving DecidableEq

/-- Where a program comes from. -/
inductive ProgramSource where
  | file (path : String)
  | example (name : String)
  | slot (name : String)
  deriving DecidableEq

inductive Command where
  | run (source : ProgramSource) (dryRun : Bool)
  | testConnection
  | examples
  | save (source : ProgramSource) (slot : String)
  | slots
  deriving DecidableEq

structure Invocation where
  options : Options
  command : Command
  deriving DecidableEq

/-- Options of the program as a whole, which may stand everywhere. -/
def commonOptions : List String := ["--config", "--device", "--log-format"]

def programGrammar : Grammar where
  options := commonOptions
  switches := []
  commands := ["run", "test-connection", "examples", "save", "slots"]
  room := 0

/-- What may stand behind a command. -/
def commandGrammar (command : String) : Grammar :=
  match command with
  | "run" => ⟨commonOptions ++ ["--example", "--slot"], ["--dry-run"], [], 1⟩
  | "save" => ⟨commonOptions ++ ["--file", "--example", "--slot"], [], [], 0⟩
  | _ => ⟨commonOptions, [], [], 0⟩

/-- A path is not empty. -/
def path? (text : String) : Option String :=
  if text = "" then none else some text

/-- The options of the program as a whole among words. -/
def options? (w : Words) : Option Options := do
  let config ← (Keyed.lookup "--config" w.options).mapM path?
  let logFormat ← (Keyed.lookup "--log-format" w.options).mapM LogFormat.ofText?
  some ⟨config, Keyed.lookup "--device" w.options, logFormat⟩

/-- Options with others over them. -/
def Options.merge (a b : Options) : Options :=
  ⟨b.config <|> a.config, b.device <|> a.device, b.logFormat <|> a.logFormat⟩

/-- The only one of several sources. -/
def onlySource? : List (Option ProgramSource) → Option ProgramSource :=
  fun sources => match sources.filterMap id with
    | [source] => some source
    | _ => none

/-- The command that its words give. -/
def command? (name : String) (w : Words) : Option Command := do
  let option (key : String) := Keyed.lookup key w.options
  let file ← match name with
    | "run" => w.others.head?.mapM path?
    | _ => (option "--file").mapM path?
  let file := file.map ProgramSource.file
  let fromExample := (option "--example").map ProgramSource.example
  match name with
  | "run" =>
    let source ← onlySource? [file, fromExample, (option "--slot").map ProgramSource.slot]
    some (.run source (w.has "--dry-run"))
  | "save" =>
    let source ← onlySource? [file, fromExample]
    some (.save source ((option "--slot").getD Slots.defaultName))
  | "test-connection" => some .testConnection
  | "examples" => some .examples
  | "slots" => some .slots
  | _ => none

/-- What a command line asks for, unless it is wrong. -/
def parse? (arguments : List String) : Option Invocation := do
  let front ← scan programGrammar .empty arguments
  let (name, rest) ← front.command
  let back ← scan (commandGrammar name) .empty rest
  some ⟨(← options? front).merge (← options? back), ← command? name back⟩

end BlockPilot.CommandLine
