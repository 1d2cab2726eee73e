import PositionLog.Kafka.Factory
import PositionLog.Log
import PositionLog.Text.Numeral

/-! # A library that reaches no broker

Records are queued, and stay queued: dropping the producer fails them all. A consumer can subscribe,
but is never given a partition.
-/

namespace PositionLog.Offline

/-- What can be set on a client. -/
def knownProperties : List String :=
  [Properties.servers, Properties.group, "acks", "auto.offset.reset", "enable.auto.commit",
    "message.max.bytes", "partition.assignment.strategy", "queue.buffering.max.messages"]

/-- Refuses properties that cannot be set. -/
def checkProperties (properties : Properties) : Except String Unit :=
  match properties.entries.find? fun (key, _) => !knownProperties.contains key with
  | none => .ok ()
  | some (key, value) =>
    .error s!"Client config error: No such configuration property: \"{key}\" {key} {value}"

/-! ## Producers -/

/-- A number is kept in 32 bits, with a sign: the lowest ones of the number that is written, which
is itself cut to what 64 bits can hold. -/
def word (n : Int) : Int :=
  Int.bmod (max Int64.minValue.toInt (min n Int64.maxValue.toInt)) UInt32.size

/-- The number that a property is set to. -/
def number (properties : Properties) (key : String) (otherwise : Nat) : Nat :=
  match (properties.get? key).bind Text.Numeral.read? with
  | none => otherwise
  | some n => (word n).toNat

structure Queued where
  ticket : Ticket
  topic : String
deriving DecidableEq, Repr

structure Queue where
  /-- How many records it can hold; zero is no bound. -/
  maxMessages : Nat
  /-- How long key and value of a record may be together. -/
  maxBytes : Nat
  records : Log Queued := {}
deriving DecidableEq, Repr

namespace Queue

def create (properties : Properties) : Except String Queue := do
  checkProperties properties
  return {
    maxMessages := number properties "queue.buffering.max.messages" 100000
    maxBytes := number properties "message.max.bytes" 1000000 }

def isFull (q : Queue) : Bool := q.maxMessages ≠ 0 && q.maxMessages ≤ q.records.size

def send (topic : String) (key value : Bytes) (ticket : Ticket) : Try String Queue Unit := do
  let q ← get
  if q.maxBytes < key.length + value.length then
    throw "Message production error: MessageSizeTooLarge (Broker: Message size too large)"
  if q.isFull then
    throw "Message production error: QueueFull (Local: Queue full)"
  set { q with records := q.records.push ⟨ticket, topic⟩ }

def flush : Try String Queue Unit := do
  if !(← get).records.isEmpty then
    throw "Flush error: OperationTimedOut (Local: Timed out)"

/-- A record never left the queue. -/
def purged (q : Queued) : Kafka.Delivery :=
  ⟨q.topic, -1, -1001, some "Message production error: PurgeQueue (Local: Purged in queue)"⟩

end Queue

instance : Kafka.ProducerLibrary Queue where
  create := Queue.create
  send := Queue.send
  flush _ := Queue.flush
  abandoned q := q.records.toList.map fun x => (x.ticket, Queue.purged x)

/-! ## Consumers -/

structure Member where
  /-- Whether it was given the name of a group. -/
  hasGroup : Bool
deriving DecidableEq, Repr

namespace Member

/-- The name of a group starts with its first character that is not a space, and cannot be empty.
Nothing can be read for a group without a name. -/
def checkGroup (properties : Properties) : Except String Unit :=
  match properties.get? Properties.group with
  | none => .ok ()
  | some group =>
    if group.toList.all Text.isAsciiSpace then
      .error "Client creation error: rdkafka consumer queue not available"
    else .ok ()

def create (properties : Properties) : Except String Member := do
  checkProperties properties
  checkGroup properties
  return { hasGroup := (properties.get? Properties.group).isSome }

def subscribe (topic : String) : Try String Member Unit := do
  if !(← get).hasGroup then throw "Subscription error: Local: Unknown group"
  if topic.isEmpty then throw "Subscription error: Local: Invalid argument or configuration"

end Member

instance : Kafka.ConsumerLibrary Member where
  create := Member.create
  subscribe topic _ := Member.subscribe topic
  unsubscribe := pure ()
  poll _ := return none
  backlog _ := 0

abbrev Producer := Kafka.Producer Queue

abbrev Consumer := Kafka.Consumer Member

abbrev Factory := Kafka.Factory Queue Member

end PositionLog.Offline
