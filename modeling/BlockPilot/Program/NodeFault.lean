import BlockPilot.Decimal.Layout

/-!
# Node faults

Why a block cannot be run: a field is missing, is no literal of its kind, or is out of range, or
the block has a type that is not known.
-/

namespace BlockPilot

/-- The kinds of blocks, as messages name them; both loops are of one kind. -/
inductive BlockKind where
  | move
  | stop
  | wait
  | speed
  | loop
  | print
  | unsupported
  deriving DecidableEq

def BlockKind.name : BlockKind → String
  | .move => "Move"
  | .stop => "Stop"
  | .wait => "Wait"
  | .speed => "Speed"
  | .loop => "Repeat"
  | .print => "Print"
  | .unsupported => "Unsupported"

/-- The fields of blocks. -/
inductive FieldName where
  | direction
  | seconds
  | speed
  | times
  | message
  deriving DecidableEq

def FieldName.name : FieldName → String
  | .direction => "direction"
  | .seconds => "seconds"
  | .speed => "speed"
  | .times => "times"
  | .message => "message"

inductive NodeFault where
  | missingField (kind : BlockKind) (field : FieldName)
  | invalidLiteral (kind : BlockKind) (field : FieldName) (value : String)
  | outOfRange (kind : BlockKind) (field : FieldName) (value min max : Binary64)
  | belowMinimum (kind : BlockKind) (field : FieldName) (value min : Binary64)
  | unsupported (type : String)
  deriving DecidableEq

def NodeFault.message : NodeFault → String
  | .missingField kind field => kind.name ++ " block is missing its " ++ field.name ++ " field"
  | .invalidLiteral kind field value =>
    kind.name ++ " block has an invalid " ++ field.name ++ " value '" ++ value ++ "'"
  | .outOfRange kind field value min max =>
    kind.name ++ " block " ++ field.name ++ " " ++ value.toPlain ++ " is outside " ++
      min.toPlain ++ "..=" ++ max.toPlain
  | .belowMinimum kind field value min =>
    kind.name ++ " block " ++ field.name ++ " " ++ value.toPlain ++
      " is below the minimum of " ++ min.toPlain
  | .unsupported type => "Unsupported block type '" ++ type ++ "'"

end BlockPilot
