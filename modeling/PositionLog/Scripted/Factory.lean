import PositionLog.Scripted.Consumer

/-! # Scripted factories -/

namespace PositionLog.Scripted

/-- What a scripted client will answer. -/
structure ProducerScript where
  sends : List SendAnswer := []
  closes : List (Option BrokerError) := []
deriving DecidableEq, Repr

structure ConsumerScript where
  subscribes : List (Option BrokerError) := []
  unsubscribes : List (Option BrokerError) := []
  polls : List PollAnswer := []
  closes : List (Option BrokerError) := []
deriving DecidableEq, Repr

def ProducerScript.create (x : ProducerScript) : StateM Shared Producer :=
  return ⟨← Shared.newParty, x.sends, x.closes⟩

def ConsumerScript.create (x : ConsumerScript) : StateM Shared Consumer :=
  return ⟨← Shared.newParty, x.subscribes, x.unsubscribes, x.polls, x.closes, none⟩

structure Factory where
  party : Nat
  producers : List (Except BrokerError ProducerScript) := []
  consumers : List (Except BrokerError ConsumerScript) := []
deriving DecidableEq, Repr

namespace Factory

def createProducer (properties : Properties) : Request Factory Producer := do
  let f ← get
  Shared.call f.party (.create .producer properties)
  set { f with producers := f.producers.tail }
  match f.producers.head?.getD (.ok {}) with
  | .ok x => x.create
  | .error cause => throw cause

def createConsumer (properties : Properties) : Request Factory Consumer := do
  let f ← get
  Shared.call f.party (.create .consumer properties)
  set { f with consumers := f.consumers.tail }
  match f.consumers.head?.getD (.ok {}) with
  | .ok x => x.create
  | .error cause => throw cause

end Factory

instance : ClientFactory Factory Producer Consumer where
  createProducer := Factory.createProducer
  createConsumer := Factory.createConsumer

end PositionLog.Scripted
