import PositionLog.Broker.Producer
import PositionLog.Broker.Consumer

/-! # The factory for clients of the broker in memory -/

namespace PositionLog.Broker

/-- Creates clients, which can fail when they are created or when they are closed. -/
structure Factory where
  failsProducer : Bool := false
  failsConsumer : Bool := false
  failsProducerClose : Bool := false
  failsConsumerClose : Bool := false
  maxPollRecords : Nat := 500
deriving DecidableEq, Repr, Inhabited

namespace Factory

def createProducer : Request Factory Producer := do
  let f ← get
  if f.failsProducer then throw (.unavailable "cannot create producer")
  Producer.create f.failsProducerClose

def createConsumer : Request Factory Consumer := do
  let f ← get
  if f.failsConsumer then throw (.unavailable "cannot create consumer")
  Consumer.create f.maxPollRecords f.failsConsumerClose

end Factory

instance : ClientFactory Factory Producer Consumer where
  createProducer _ := Factory.createProducer
  createConsumer _ := Factory.createConsumer

end PositionLog.Broker
