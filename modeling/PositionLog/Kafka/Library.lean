import PositionLog.Client

/-! # The library under a Kafka client

A client of a Kafka cluster leaves it to a library to speak with the brokers. All that the client
knows of the library is what it answers, and that it tells in a text what goes wrong.
-/

namespace PositionLog.Kafka

/-- What a library tells about a record that it is done with. -/
structure Delivery where
  topic : String
  partition : Int
  /-- Negative if the record has no place. -/
  offset : Int
  failure : Option String := none
deriving DecidableEq, Repr

namespace Delivery

def place (d : Delivery) : Metadata :=
  ⟨d.topic, some d.partition, if 0 ≤ d.offset then some d.offset else none⟩

def report (d : Delivery) : Report :=
  match d.failure with
  | none => .ok d.place
  | some text => .error ⟨some d.place, .kafka text⟩

end Delivery

/-- The write side of a library. -/
class ProducerLibrary (L : Type) where
  create : Properties → Except String L
  /-- Queues a record with its ticket. If it fails, the ticket is void. -/
  send : (topic : String) → (key value : Bytes) → Ticket → Try String L Unit
  /-- Waits for the records in the queue, for so many nanoseconds at most. -/
  flush : (timeout : Nat) → Try String L Unit
  /-- The tickets that are left when it is dropped, and what becomes of their records. -/
  abandoned : L → List (Ticket × Delivery)

/-- The read side of a library. -/
class ConsumerLibrary (L : Type) where
  create : Properties → Except String L
  /-- Joins a topic. The listener hears of it when partitions come and go, during a poll. -/
  subscribe : (topic : String) → Option Listener → Try String L Unit
  unsubscribe : Act L Unit
  /-- The next record, if one comes in time. -/
  poll : (timeout : Nat) → Act L (Option (Except String Record))
  /-- How many records at most it may still find. -/
  backlog : L → Nat

end PositionLog.Kafka
