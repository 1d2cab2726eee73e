import PositionLog.Broker.Factory
import PositionLog.Checkpointer.Basic
import PositionLog.Kafka.Offline
import PositionLog.Scripted.Deserializer
import PositionLog.Scripted.Factory

/-! # Clients of any kind

A session mixes clients of the broker in memory, scripted ones, and ones that reach no broker.
-/

namespace PositionLog.Session

inductive AnyProducer where
  | memory (p : Broker.Producer)
  | scripted (p : Scripted.Producer)
  | offline (p : Offline.Producer)

namespace AnyProducer

/-- What every producer can do, a producer of any kind can. -/
def request {α : Type} (x : {P : Type} → [LogProducer P] → Request P α) : Request AnyProducer α
  | .memory p => do
    let (a, p) ← (x p : StateM Shared (_ × Broker.Producer))
    return (a, .memory p)
  | .scripted p => do
    let (a, p) ← (x p : StateM Shared (_ × Scripted.Producer))
    return (a, .scripted p)
  | .offline p => do
    let (a, p) ← (x p : StateM Shared (_ × Offline.Producer))
    return (a, .offline p)

end AnyProducer

instance : LogProducer AnyProducer where
  send topic key value t := AnyProducer.request (LogProducer.send topic key value t)
  close := AnyProducer.request LogProducer.close
  abandoned
    | .memory p => LogProducer.abandoned p
    | .scripted p => LogProducer.abandoned p
    | .offline p => LogProducer.abandoned p

inductive AnyConsumer where
  | memory (c : Broker.Consumer)
  | scripted (c : Scripted.Consumer)
  | offline (c : Offline.Consumer)

namespace AnyConsumer

/-- What every consumer can do, a consumer of any kind can. -/
def request {α : Type} (x : {C : Type} → [LogConsumer C] → Request C α) : Request AnyConsumer α
  | .memory c => do
    let (a, c) ← (x c : StateM Shared (_ × Broker.Consumer))
    return (a, .memory c)
  | .scripted c => do
    let (a, c) ← (x c : StateM Shared (_ × Scripted.Consumer))
    return (a, .scripted c)
  | .offline c => do
    let (a, c) ← (x c : StateM Shared (_ × Offline.Consumer))
    return (a, .offline c)

end AnyConsumer

instance : LogConsumer AnyConsumer where
  subscribe topic l := AnyConsumer.request (LogConsumer.subscribe topic l)
  unsubscribe := AnyConsumer.request LogConsumer.unsubscribe
  poll timeout := AnyConsumer.request (LogConsumer.poll timeout)
  close := AnyConsumer.request LogConsumer.close
  backlog
    | .memory c => LogConsumer.backlog c
    | .scripted c => LogConsumer.backlog c
    | .offline c => LogConsumer.backlog c

inductive AnyFactory where
  | memory (f : Broker.Factory)
  | scripted (f : Scripted.Factory)
  | offline (f : Offline.Factory)

namespace AnyFactory

def createProducer (properties : Properties) : Request AnyFactory AnyProducer
  | .memory f => do
    let (p, f) ← (ClientFactory.createProducer properties f : StateM Shared (_ × Broker.Factory))
    return (p.map .memory, .memory f)
  | .scripted f => do
    let (p, f) ← (ClientFactory.createProducer properties f : StateM Shared (_ × Scripted.Factory))
    return (p.map .scripted, .scripted f)
  | .offline f => do
    let (p, f) ← (ClientFactory.createProducer properties f : StateM Shared (_ × Offline.Factory))
    return (p.map .offline, .offline f)

def createConsumer (properties : Properties) : Request AnyFactory AnyConsumer
  | .memory f => do
    let (c, f) ← (ClientFactory.createConsumer properties f : StateM Shared (_ × Broker.Factory))
    return (c.map .memory, .memory f)
  | .scripted f => do
    let (c, f) ← (ClientFactory.createConsumer properties f : StateM Shared (_ × Scripted.Factory))
    return (c.map .scripted, .scripted f)
  | .offline f => do
    let (c, f) ← (ClientFactory.createConsumer properties f : StateM Shared (_ × Offline.Factory))
    return (c.map .offline, .offline f)

end AnyFactory

instance : ClientFactory AnyFactory AnyProducer AnyConsumer where
  createProducer := AnyFactory.createProducer
  createConsumer := AnyFactory.createConsumer

inductive AnyDeserializer where
  | loader (l : Loader)
  | scripted (d : Scripted.Deserializer)

namespace AnyDeserializer

variable {P : Type} [LogProducer P]

def deserialize (key value : Bytes) : Act (Intake AnyDeserializer P) Bool
  | ⟨.loader l, write⟩ => do
    let (wants, s) ← (Deserializer.deserialize key value ⟨l, write⟩ :
      StateM Shared (_ × Intake Loader P))
    return (wants, ⟨.loader s.deserializer, s.write⟩)
  | ⟨.scripted d, write⟩ => do
    let (wants, s) ← (Deserializer.deserialize key value ⟨d, write⟩ :
      StateM Shared (_ × Intake Scripted.Deserializer P))
    return (wants, ⟨.scripted s.deserializer, s.write⟩)

end AnyDeserializer

instance : Deserializer AnyDeserializer where
  deserialize := AnyDeserializer.deserialize
  appends
    | .loader l => Deserializer.appends l
    | .scripted d => Deserializer.appends d

abbrev AnyCheckpointer := Checkpointer AnyFactory AnyProducer AnyConsumer AnyDeserializer

end PositionLog.Session
