import BlockPilot.Logging.Format
import BlockPilot.Logging.Level

/-!
# Configuration

What can be configured, the values that hold where nothing is configured, and what a configuration
must keep to: a known log level, a robot's address that begins with `http://`, and room for one
event at least.
-/

namespace BlockPilot

structure ApplicationConfig where
  name : String
  logLevel : String
  logFormat : LogFormat
  deriving DecidableEq

/-- The robot's address, and times in milliseconds. -/
structure DeviceConfig where
  address : String
  settleDelay : Nat
  requestTimeout : Nat
  deriving DecidableEq

/-- The pause after each block in milliseconds, and how many events are retained. -/
structure InterpreterConfig where
  pacingDelay : Nat
  eventBuffer : Nat
  deriving DecidableEq

structure StorageConfig where
  programDirectory : String
  deriving DecidableEq

structure Config where
  application : ApplicationConfig
  device : DeviceConfig
  interpreter : InterpreterConfig
  storage : StorageConfig
  deriving DecidableEq

namespace Config

def defaults : Config where
  application := ⟨"botblocks", "info", .compact⟩
  device := ⟨"http://192.168.4.1", 50, 2000⟩
  interpreter := ⟨50, 1000⟩
  storage := ⟨"programs"⟩

/-! ## Validation -/

inductive Problem where
  | unknownLevel (text : String)
  | wrongAddress (address : String)
  | noEvents
  deriving DecidableEq

def Problem.message : Problem → String
  | .unknownLevel text =>
    "Invalid log_level '" ++ text ++ "'. Must be one of: trace, debug, info, warn, error"
  | .wrongAddress address =>
    "Invalid device address '" ++ address ++ "'. Must start with http://"
  | .noEvents => "interpreter.event_buffer must be at least 1"

/-- How every address of a robot begins. -/
def scheme : String := "http://"

/-- Whether a text is the name of a level, in any case. -/
def isLevel (text : String) : Bool :=
  Level.all.any (·.name == Text.lowercase text)

/-- The first thing that is wrong with a configuration. -/
def problem? (c : Config) : Option Problem :=
  if !isLevel c.application.logLevel then some (.unknownLevel c.application.logLevel)
  else if !scheme.toList.isPrefixOf c.device.address.toList then
    some (.wrongAddress c.device.address)
  else if c.interpreter.eventBuffer = 0 then some .noEvents
  else none

/-- The configuration with another address for the robot. -/
def setAddress (address : String) (c : Config) : Config :=
  { c with device := { c.device with address } }

end Config

end BlockPilot
