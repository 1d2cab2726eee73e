import PositionLog.Bytes
import PositionLog.Error

/-! # Records, and the fate of records sent -/

namespace PositionLog

structure TopicPartition where
  topic : String
  partition : Int
deriving DecidableEq, Repr, Inhabited

namespace TopicPartition

def render (p : TopicPartition) : String := s!"{p.topic}[{p.partition}]"

/-- By topic, then by partition. -/
def precedes (p q : TopicPartition) : Bool :=
  p.topic < q.topic || (p.topic = q.topic && p.partition ≤ q.partition)

def sort (l : List TopicPartition) : List TopicPartition := l.mergeSort precedes

/-- How many different ones there are. -/
def countDistinct (l : List TopicPartition) : Nat :=
  let s := sort l
  s.length - ((s.zip s.tail).filter fun (p, q) => p = q).length

end TopicPartition

/-- A record as it is read back. -/
structure Record where
  partition : Int
  offset : Int
  key : Bytes
  value : Bytes
deriving DecidableEq, Repr, Inhabited

/-- What a broker tells about a record sent. A record it did not take may have no place. -/
structure Metadata where
  topic : String
  partition : Option Int := none
  offset : Option Int := none
deriving DecidableEq, Repr, Inhabited

/-- A record was not taken. -/
structure DeliveryFailure where
  metadata : Option Metadata
  error : BrokerError
deriving DecidableEq, Repr, Inhabited

/-- What became of a record sent. -/
abbrev Report := Except DeliveryFailure Metadata

-- Libraries have such an instance too.  This one is found first, whatever else is imported.
instance (priority := 2000) decidableEqExcept {ε α : Type} [DecidableEq ε] [DecidableEq α] :
    DecidableEq (Except ε α)
  | .error d, .error e =>
    decidable_of_iff (d = e) ⟨congrArg _, fun h => Except.error.inj h⟩
  | .ok a, .ok b => decidable_of_iff (a = b) ⟨congrArg _, fun h => Except.ok.inj h⟩
  | .error _, .ok _ => .isFalse nofun
  | .ok _, .error _ => .isFalse nofun

/-- A record that a writer lost. -/
structure Loss where
  key : Bytes
  metadata : Option Metadata
  cause : BrokerError
deriving DecidableEq, Repr, Inhabited

/-- Who waits for the report on a record sent. -/
inductive Ticket where
  /-- A writer that keeps its losses under the number `losses`. -/
  | writer (losses : Nat) (key : Bytes)
  /-- Whoever follows the reports of the session. -/
  | watcher
deriving DecidableEq, Repr, Inhabited

/-- What a producer answers that takes a record. -/
inductive Receipt where
  /-- The report is known at once. -/
  | settled (report : Report)
  /-- The ticket was kept: the report comes later, or never. -/
  | outstanding
deriving DecidableEq, Repr

end PositionLog
