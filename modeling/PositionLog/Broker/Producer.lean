import PositionLog.Client

/-! # Producers of the broker in memory

The report on a record is there as soon as it is sent.
-/

namespace PositionLog.Broker

structure Producer where
  closed : Bool := false
  /-- Closing it reports an error. It is closed nevertheless. -/
  failsToClose : Bool := false
deriving DecidableEq, Repr, Inhabited

namespace Producer

/-- A new producer. The broker counts it. -/
def create (failsToClose : Bool) : StateM Shared Producer := do
  Shared.count fun n => { n with producersCreated := n.producersCreated + 1 }
  return { failsToClose }

/-- Appends a record and tells its place. A record that the broker rejects has none. -/
def report (topic : String) (e : Entry) : StateM Shared Report := modifyGet fun w =>
  match w.broker.append topic e with
  | .error cause => (.error ⟨some { topic }, cause⟩, w)
  | .ok (place, broker) => (.ok place, { w with broker })

def send (topic : String) (key value : Bytes) : Request Producer Receipt := do
  if (← get).closed then throw .closed
  if (← getThe Shared).broker.queueFull then throw (.unavailable "local queue is full")
  return .settled (← report topic ⟨key, value⟩)

def close : Request Producer Unit := do
  let p ← get
  if p.closed then return
  set { p with closed := true }
  Shared.count fun n => { n with producersClosed := n.producersClosed + 1 }
  if p.failsToClose then throw (.unavailable "failed to flush on close")

end Producer

instance : LogProducer Producer where
  send topic key value _ := Producer.send topic key value
  close := Producer.close
  abandoned _ := []

end PositionLog.Broker
