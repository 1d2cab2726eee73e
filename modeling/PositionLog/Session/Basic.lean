import PositionLog.Session.Step

/-! # Sessions

A session keeps caches, clients and checkpointers under names.
-/

namespace PositionLog

/-- What a session keeps under names. -/
structure Session where
  caches : Table Nat := {}
  loaders : Table Loader := {}
  queues : Table (List Loss) := {}
  producers : Table Session.AnyProducer := {}
  writers : Table Writer := {}
  consumers : Table Session.AnyConsumer := {}
  checkpointers : Table Session.AnyCheckpointer := {}

/-- A step of a session. -/
abbrev Turn := Try Session.Fault Session

namespace Session

variable {α : Type}

/-- What is kept under a name. -/
def find (name : String) (x : Option α) : Turn α :=
  match x with
  | some a => return a
  | none => throw (.unknown name)

def orFault : Except BrokerError α → Turn α
  | .ok a => return a
  | .error e => throw (.broker e)

/-! ## Clients -/

def putProducer (name : String) (p : Option AnyProducer) (s : Session) : Session :=
  match p with
  | none => s
  | some p => { s with producers := s.producers.insert name p }

def putConsumer (name : String) (c : Option AnyConsumer) (s : Session) : Session :=
  match c with
  | none => s
  | some c => { s with consumers := s.consumers.insert name c }

def putCheckpointer (name : String) (k : AnyCheckpointer) (s : Session) : Session :=
  { s with checkpointers := s.checkpointers.insert name k }

/-- A step of the producer found at a handle, if there is one. -/
def onProducer (h : Handle) (x : Act AnyProducer α) : Act Session (Option α) := do
  match h with
  | .named name => Act.on (·.producers.get? name) (putProducer name) x.onSome
  | .heldBy name =>
    match (← get).checkpointers.get? name with
    | none => return none
    | some k =>
      let (a, p) ← (x.onSome k.write.producer : StateM Shared (_ × Option AnyProducer))
      modify (putCheckpointer name (k.setProducer p))
      return a

/-- A step of the consumer found at a handle, if there is one. -/
def onConsumer (h : Handle) (x : Act AnyConsumer α) : Act Session (Option α) := do
  match h with
  | .named name => Act.on (·.consumers.get? name) (putConsumer name) x.onSome
  | .heldBy name =>
    match (← get).checkpointers.get? name with
    | none => return none
    | some k =>
      let (a, c) ← (x.onSome k.read.consumer : StateM Shared (_ × Option AnyConsumer))
      modify (putCheckpointer name (k.setConsumer c))
      return a

/-- The answer of a client, if it was there. -/
def answered (f : α → Answer) : Option (Except BrokerError α) → Turn Answer
  | none => return .absent
  | some (.ok a) => return f a
  | some (.error e) => throw (.broker e)

/-- A request to the producer at a handle. -/
def askProducer (h : Handle) (x : Request AnyProducer α) (f : α → Answer) : Turn Answer := do
  answered f (← (onProducer h x.run : Act Session _))

/-- A request to the consumer at a handle. -/
def askConsumer (h : Handle) (x : Request AnyConsumer α) (f : α → Answer) : Turn Answer := do
  answered f (← (onConsumer h x.run : Act Session _))

def ProducerSpec.create : ProducerSpec → StateM Shared (Except BrokerError AnyProducer)
  | .memory failsToClose => return .ok (.memory (← Broker.Producer.create failsToClose))
  | .scripted script => return .ok (.scripted (← script.create))
  | .offline factory properties => do
    let (p, _) ← (Kafka.Factory.createProducer properties factory :
      StateM Shared (Except BrokerError Offline.Producer × Offline.Factory))
    return p.map .offline

def ConsumerSpec.create : ConsumerSpec → StateM Shared (Except BrokerError AnyConsumer)
  | .memory maxPollRecords failsToClose =>
    return .ok (.memory (← Broker.Consumer.create maxPollRecords failsToClose))
  | .scripted script => return .ok (.scripted (← script.create))
  | .offline factory properties => do
    let (c, _) ← (Kafka.Factory.createConsumer properties factory :
      StateM Shared (Except BrokerError Offline.Consumer × Offline.Factory))
    return c.map .offline

def FactorySpec.create : FactorySpec → StateM Shared AnyFactory
  | .memory factory => return .memory factory
  | .scripted producers consumers => return .scripted ⟨← Shared.newParty, producers, consumers⟩
  | .offline factory => return .offline factory

/-- Drops a producer that is no longer kept. -/
def dropProducer : Option AnyProducer → StateM Shared Unit
  | none => pure ()
  | some p => LogProducer.drop p

/-- Drops a checkpointer that is no longer kept. -/
def dropCheckpointer : Option AnyCheckpointer → StateM Shared Unit
  | none => pure ()
  | some k => k.drop

end Session

end PositionLog
