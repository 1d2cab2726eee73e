import PositionLog.Broker.Store

/-! # The broker

A partitioned, append-only log for each topic, held in memory.
-/

namespace PositionLog

/-- How many clients were created, and how many of them were closed. -/
structure ClientCounts where
  producersCreated : Nat := 0
  consumersCreated : Nat := 0
  producersClosed : Nat := 0
  consumersClosed : Nat := 0
deriving DecidableEq, Repr, Inhabited

structure Broker extends Store where
  sized : toStore.Sized := by exact Store.sized_of_empty (by decide)
  /-- Appends are rejected. -/
  unavailable : Bool := false
  /-- Producers take nothing into their queues. -/
  queueFull : Bool := false
  counts : ClientCounts := {}
deriving Repr, Inhabited

namespace Broker

/-- A broker has one partition to a topic, unless more are asked for. -/
def withPartitions (n : Int) : Broker where
  partitions := max 1 n.toNat
  sized := Store.sized_of_empty (by omega)

/-- Where a key goes. -/
def route (b : Broker) (key : Bytes) : Nat := Partitioner.index key b.partitions

/-- Adds an entry at the end of the partition of its key, and tells its place. All partitions are
there, so there is always a result. -/
def add (b : Broker) (topic : String) (e : Entry) : Metadata × Broker :=
  let added := (b.append? topic e).get (b.sized.isSome_append? topic e)
  (added.1, { b with
    toStore := added.2
    sized := b.sized.append? (Option.some_get (b.sized.isSome_append? topic e)).symm })

def append (b : Broker) (topic : String) (e : Entry) : Except BrokerError (Metadata × Broker) :=
  if b.unavailable then .error (.unavailable "broker is not reachable")
  else .ok (b.add topic e)

/-- The offset that the next entry of a partition will get. -/
def endOffset (b : Broker) (tp : TopicPartition) : Except BrokerError Nat :=
  (b.endOffset? tp).get (b.sized.isSome_endOffset? tp)

/-- The partitions of a topic, in ascending order. -/
def partitionsOf (b : Broker) (topic : String) : List TopicPartition :=
  (List.range b.partitions).map fun p : Nat => ⟨topic, p⟩

@[simp] theorem partitions_withPartitions (n : Int) :
    (withPartitions n).partitions = max 1 n.toNat := rfl

theorem route_lt (b : Broker) (key : Bytes) : b.route key < b.partitions :=
  Partitioner.index_lt key b.sized.pos

@[simp] theorem length_partitionsOf (b : Broker) (topic : String) :
    (b.partitionsOf topic).length = b.partitions := by simp [partitionsOf]

end Broker

end PositionLog
