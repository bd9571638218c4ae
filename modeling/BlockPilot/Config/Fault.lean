import BlockPilot.Config.Setting
import BlockPilot.Json.Fault
import BlockPilot.Storage.FileFault

/-!
# Faults of settings

Why a setting cannot be taken over. The message says where the setting stands and which layer it
comes from, in the words of that layer.
-/

namespace BlockPilot

/-- What is wrong with a setting; `found` is what the setting is called. -/
inductive SettingFault where
  | wrongType (found expected : String)
  | wrongValue (found expected : String)
  | unknownVariant (name : String) (names : List String)
  deriving DecidableEq

inductive ConfigFault where
  /-- A setting that cannot be taken over, and the names on the way to it. -/
  | setting (fault : SettingFault) (path : List String) (source : Source)
  /-- A file that is no text. -/
  | noText (file : String)
  /-- A file that is no TOML. -/
  | noToml (file : String)
  deriving DecidableEq

/-- What a message calls a setting that should have been of another kind. -/
def Setting.shown : Setting → String
  | .text value => "string " ++ Text.quoted value
  | .char value => "string " ++ Text.quoted (String.singleton value)
  | .bool value => "bool " ++ (if value then "true" else "false")
  | .natural value => "unsigned int " ++ ticked (toString value)
  | .integer value => "signed int " ++ ticked (toString value)
  | .decimal value => "float " ++ ticked value.toPlain
  | .list _ => "sequence"
  | .dict _ => "map"

def Layered.shown : Layered → String
  | .leaf _ v => v.shown
  | .dict .. => "map"

def SettingFault.message : SettingFault → String
  | .wrongType found expected => "invalid type: found " ++ found ++ ", expected " ++ expected
  | .wrongValue found expected => "invalid value " ++ found ++ ", expected " ++ expected
  | .unknownVariant name names =>
    "unknown variant: found " ++ ticked name ++ ", expected " ++ ticked (alternatives names)

namespace Source

/-- What the environment calls its settings in messages. -/
def environmentTitle : String := "`BOTBLOCKS__` environment variable(s)"

/-- The name of a layer in messages. -/
def shown : Source → String
  | .defaults => "defaults"
  | .file name => name ++ " TOML file"
  | .environment => environmentTitle

/-- The names on the way to a setting, as a layer writes them. -/
def key (path : List String) : Source → String
  | .environment => String.intercalate "." (path.map Text.uppercaseAscii)
  | _ => String.intercalate "." ("default" :: path)

end Source

def ConfigFault.message : ConfigFault → String
  | .setting fault path source =>
    fault.message ++ " for key " ++ Text.quoted (source.key path) ++ " in " ++ source.shown
  | .noText file => FileFault.notText.message ++ " in " ++ (Source.file file).shown
  | .noToml file => "TOML parse error in " ++ (Source.file file).shown

end BlockPilot
