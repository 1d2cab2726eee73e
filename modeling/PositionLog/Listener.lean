import PositionLog.Act

/-! # Listeners

What a consumer does about the partitions it is given, before it reads from them.
-/

namespace PositionLog

/-- Where a listener reads and sets the position of each partition. -/
structure Cursor (S : Type) where
  endOffset : TopicPartition → Act S (Except BrokerError Int)
  seek : TopicPartition → (offset : Int) → Act S (Except BrokerError Unit)

/-- Goes back, in each partition, to the last `depth` records. -/
structure Rewind where
  depth : Nat
deriving DecidableEq, Repr, Inhabited

namespace Rewind

/-- The greatest offset there can be. -/
def maxOffset : Nat := Int64.maxValue.toInt.toNat

/-- Where to start in a partition that ends at `end_`. There is no such place in a partition with
fewer records than `depth`; it is read from its start anyway. -/
def target (r : Rewind) (end_ : Int) : Option Nat :=
  let start := end_ - min r.depth maxOffset
  if 0 ≤ start then some start.toNat else none

/-- Moves one partition. What goes wrong with it is told, and concerns no other partition. -/
def move {S : Type} (r : Rewind) (c : Cursor S) (p : TopicPartition) : Act S Unit := do
  match ← c.endOffset p with
  | .error cause => Shared.tell (.endUnknown p cause)
  | .ok end_ =>
    match r.target end_ with
    | none => Shared.tell (.seekIgnored p end_ r.depth)
    | some start =>
      Shared.tell (.seeking p end_ start)
      match ← c.seek p start with
      | .error cause => Shared.tell (.seekFailed p start cause)
      | .ok () => pure ()

end Rewind

inductive CursorCommand where
  | endOffset (partition : TopicPartition)
  | seek (partition : TopicPartition) (offset : Int)
deriving DecidableEq, Repr

/-- Carries out a command, and lets the answer be seen. -/
def CursorCommand.run {S : Type} (c : Cursor S) : CursorCommand → Act S Unit
  | .endOffset p => do Shared.observe (.endAnswered (← c.endOffset p))
  | .seek p offset => do Shared.observe (.seekAnswered (← c.seek p offset))

inductive Listener where
  | rewind (r : Rewind)
  /-- Lets be seen what it hears, and tries out the cursor. -/
  | probe (commands : List CursorCommand)
deriving DecidableEq, Repr

namespace Listener

def assigned {S : Type} (c : Cursor S) (ps : List TopicPartition) : Listener → Act S Unit
  | rewind r => ps.forM (r.move c)
  | probe commands => do
    Shared.observe (.assigned ps)
    commands.forM (·.run c)

def revoked (ps : List TopicPartition) : Listener → StateM Shared Unit
  | rewind _ => pure ()
  | probe _ => Shared.observe (.revoked ps)

end Listener

end PositionLog
