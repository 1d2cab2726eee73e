import PositionLog.Kafka.Consumer
import PositionLog.Kafka.Producer

/-! # The factory for Kafka clients -/

namespace PositionLog.Kafka

/-- Creates clients over the two sides of a library. -/
structure Factory (LP LC : Type) where
  flushTimeout : Nat := Producer.defaultFlushTimeout

namespace Factory

variable {LP LC : Type} [ProducerLibrary LP] [ConsumerLibrary LC]

def createProducer (properties : Properties) : Request (Factory LP LC) (Producer LP) := do
  match Producer.create properties (← get).flushTimeout with
  | .ok producer => return producer
  | .error cause => throw cause

def createConsumer (properties : Properties) : Request (Factory LP LC) (Consumer LC) := do
  Shared.tell (.consumerCreated (properties.get? Properties.group))
  match Consumer.create properties with
  | .ok consumer => return consumer
  | .error cause => throw cause

end Factory

instance {LP LC : Type} [ProducerLibrary LP] [ConsumerLibrary LC] :
    ClientFactory (Factory LP LC) (Producer LP) (Consumer LC) where
  createProducer := Factory.createProducer
  createConsumer := Factory.createConsumer

end PositionLog.Kafka
