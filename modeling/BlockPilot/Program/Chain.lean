import BlockPilot.Program.FieldValue
import BlockPilot.Program.NodeFault
import BlockPilot.Robot.Command

/-!
# Chains of blocks

A chain is a list of blocks, and the loops among them have a chain of their own as their body.
An empty body is no body. Fields keep the values that the editor gave them, and a block of a type
that is not known keeps all its members.
-/

namespace BlockPilot

/-- A block without a body. -/
inductive Block where
  | move (direction : Option FieldValue)
  | stop
  | wait (seconds : Option FieldValue)
  | setSpeed (speed : Option FieldValue)
  | print (message : Option FieldValue)
  | unsupported (type : String) (members : List (String × Json))

/-- The two loops: one must say how often it runs, the other runs once when it does not. -/
inductive LoopKind where
  | fixed
  | counted
  deriving DecidableEq

inductive Chain where
  | nil
  | block (block : Block) (next : Chain)
  | loop (kind : LoopKind) (times : Option FieldValue) (body next : Chain)

/-- An optional field with an equality on its values. -/
def sameField : Option FieldValue → Option FieldValue → Bool
  | none, none => true
  | some a, some b => a.same b
  | _, _ => false

namespace Block

def kind : Block → BlockKind
  | .move _ => .move
  | .stop => .stop
  | .wait _ => .wait
  | .setSpeed _ => .speed
  | .print _ => .print
  | .unsupported .. => .unsupported

def same : Block → Block → Bool
  | .move a, .move b => sameField a b
  | .stop, .stop => true
  | .wait a, .wait b => sameField a b
  | .setSpeed a, .setSpeed b => sameField a b
  | .print a, .print b => sameField a b
  | .unsupported t a, .unsupported u b => t == u && Json.sameMembers a b
  | _, _ => false

end Block

/-- What a chain looks like: the kinds of its blocks, each with the outline of its body. -/
inductive Outline where
  | nil
  | block (kind : BlockKind) (body next : Outline)

namespace Chain

def isEmpty : Chain → Bool
  | .nil => true
  | _ => false

/-! ## The first block -/

def headKind? : Chain → Option BlockKind
  | .nil => none
  | .block b _ => some b.kind
  | .loop .. => some .loop

/-- The blocks behind the first. -/
def next : Chain → Chain
  | .nil => .nil
  | .block _ next => next
  | .loop _ _ _ next => next

/-- The body of the first block. -/
def body : Chain → Chain
  | .loop _ _ body _ => body
  | _ => .nil

/-- The first block alone, followed by `next`. -/
def withNext : Chain → Chain → Chain
  | .nil, _ => .nil
  | .block b _, next => .block b next
  | .loop kind times body _, next => .loop kind times body next

/-! ## Whole chains -/

/-- How many blocks a chain has, bodies included. -/
def count : Chain → Nat
  | .nil => 0
  | .block _ next => 1 + next.count
  | .loop _ _ body next => 1 + body.count + next.count

def outline : Chain → Outline
  | .nil => .nil
  | .block b next => .block b.kind .nil next.outline
  | .loop _ _ body next => .block .loop body.outline next.outline

/-- Links the first blocks of the chains in their order; what followed each of them is lost. -/
def link : List Chain → Chain
  | [] => .nil
  | .nil :: rest => link rest
  | c :: rest => c.withNext (link rest)

/-- Equality of chains: fields are compared by their values. -/
def same : Chain → Chain → Bool
  | .nil, .nil => true
  | .block a r, .block b s => a.same b && r.same s
  | .loop k t a r, .loop l u b s => k == l && sameField t u && a.same b && r.same s
  | _, _ => false

/-! ## Single blocks -/

/-- The value of a field that is a natural number. -/
def naturalField (n : Nat) : FieldValue :=
  .number (.ofNat n)

def move (d : Direction) : Chain := .block (.move (some (.text d.name))) .nil

def stop : Chain := .block .stop .nil

def wait (seconds : Binary64) : Chain := .block (.wait (some (.number seconds))) .nil

def setSpeed (speed : Nat) : Chain := .block (.setSpeed (some (naturalField speed))) .nil

def repeatFixed (times : Nat) (body : List Chain) : Chain :=
  .loop .fixed (some (naturalField times)) (link body) .nil

def repeatCounted (times : Option Nat) (body : List Chain) : Chain :=
  .loop .counted (times.map naturalField) (link body) .nil

def print (message : String) : Chain := .block (.print (some (.text message))) .nil

end Chain

end BlockPilot
