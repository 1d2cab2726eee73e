import PositionLog.Kafka.Library

/-! # Kafka producers -/

namespace PositionLog.Kafka

structure Producer (L : Type) where
  library : L
  /-- How long closing it waits for the records in the queue. -/
  flushTimeout : Nat
  closed : Bool := false
deriving DecidableEq, Repr

namespace Producer

variable {L : Type}

/-- Half a minute. -/
def defaultFlushTimeout : Nat := 30 * 1000000000

/-- Leaves a step to the library. -/
def ask {α : Type} (x : Try String L α) : Request (Producer L) α := do
  match ← (Act.on library (fun library p => { p with library }) x.run : Act (Producer L) _) with
  | .ok a => return a
  | .error text => throw (.kafka text)

variable [ProducerLibrary L]

def create (properties : Properties) (flushTimeout : Nat) : Except BrokerError (Producer L) :=
  match ProducerLibrary.create properties with
  | .error text => .error (.kafka text)
  | .ok library => .ok { library, flushTimeout }

def send (topic : String) (key value : Bytes) (t : Ticket) : Request (Producer L) Receipt := do
  if (← get).closed then throw .closed
  ask (ProducerLibrary.send topic key value t)
  return .outstanding

def close : Request (Producer L) Unit := do
  let p ← get
  if p.closed then return
  set { p with closed := true }
  Shared.tell (.flushing (p.flushTimeout / 1000000))
  ask (ProducerLibrary.flush p.flushTimeout)

def abandoned (p : Producer L) : List (Ticket × Report) :=
  (ProducerLibrary.abandoned p.library).map fun (t, d) => (t, d.report)

end Producer

instance {L : Type} [ProducerLibrary L] : LogProducer (Producer L) where
  send := Producer.send
  close := Producer.close
  abandoned := Producer.abandoned

end PositionLog.Kafka
