import PositionLog.Listener

/-! # Clients of a broker -/

namespace PositionLog

/-- The write side of a broker. -/
class LogProducer (P : Type) where
  /-- Takes a record. If it fails, the record was not taken and its ticket is void. -/
  send : (topic : String) → (key value : Bytes) → Ticket → Request P Receipt
  /-- Waits for what is outstanding, and takes nothing more. -/
  close : Request P Unit
  /-- The tickets that a producer holds when it is dropped, and what is reported on them. -/
  abandoned : P → List (Ticket × Report)

/-- The read side of a broker. -/
class LogConsumer (C : Type) where
  /-- Joins a topic. The listener hears of the partitions assigned later, during a poll. -/
  subscribe : (topic : String) → Option Listener → Request C Unit
  unsubscribe : Request C Unit
  /-- The next records. An empty batch does not mean that the log has ended. -/
  poll : (timeout : Nat) → Request C (List Record)
  close : Request C Unit
  /-- A number of batches that cannot be exceeded unless records are added. -/
  backlog : C → Shared → Nat

/-- Creates the clients of a checkpointer. -/
class ClientFactory (F : Type) (P C : outParam Type) where
  createProducer : Properties → Request F P
  createConsumer : Properties → Request F C

namespace LogProducer

variable {P : Type} [LogProducer P]

/-- Sends a record, and hands over the report if it is there at once. -/
def transmit (topic : String) (key value : Bytes) (t : Ticket) : Request P Unit := do
  match ← send topic key value t with
  | .settled report => Shared.settle t report
  | .outstanding => pure ()

/-- Drops a producer. -/
def drop (p : P) : StateM Shared Unit :=
  (abandoned p).forM fun (t, report) => Shared.settle t report

end LogProducer

end PositionLog
