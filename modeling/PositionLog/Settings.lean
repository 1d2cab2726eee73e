import PositionLog.Properties

/-! # Settings of a checkpointer

Settings are drafted by single choices in any order, and checked when the draft is complete.
Durations are counted in nanoseconds.
-/

namespace PositionLog

/-- How much of a replay a deserializer ends by asking to stop. -/
inductive HaltScope where
  /-- The batch at hand. Polling goes on. -/
  | batch
  /-- The whole replay. -/
  | replay
deriving DecidableEq, Repr, Inhabited

structure Settings where
  topic : String
  pollTimeout : Nat
  /-- How many polls in a row may find nothing before a replay is over. -/
  retryCount : Nat
  halt : HaltScope
  producer : Properties
  consumer : Properties
deriving DecidableEq, Repr, Inhabited

namespace Settings

def withPollTimeout (s : Settings) (timeout : Nat) : Except ConfigError Settings :=
  if timeout = 0 then .error .zeroPollTimeout else .ok { s with pollTimeout := timeout }

/-- Whether the consumers of two checkpointers join the same group, or both none. -/
def sameGroup (s t : Settings) : Bool :=
  s.consumer.get? Properties.group == t.consumer.get? Properties.group

/-- One choice of a draft. -/
inductive Choice where
  | pollTimeout (timeout : Nat)
  | retryCount (count : Nat)
  | halt (scope : HaltScope)
  | servers (addresses : String)
  | producerProperty (key value : String)
  | consumerProperty (key value : String)
deriving DecidableEq, Repr

/-- Settings that have not been checked. -/
structure Draft where
  topic : String
  pollTimeout : Nat := 1000000000
  retryCount : Nat := 10
  halt : HaltScope := .batch
  /-- The servers whose defaults both clients start from. -/
  servers : Option String := none
  producer : Properties := {}
  consumer : Properties := {}
deriving DecidableEq, Repr

namespace Draft

def choose (d : Draft) : Choice → Draft
  | .pollTimeout timeout => { d with pollTimeout := timeout }
  | .retryCount count => { d with retryCount := count }
  | .halt scope => { d with halt := scope }
  | .servers addresses => { d with servers := some addresses }
  | .producerProperty key value => { d with producer := d.producer.insert key value }
  | .consumerProperty key value => { d with consumer := d.consumer.insert key value }

def ofChoices (topic : String) (choices : List Choice) : Draft := choices.foldl choose { topic }

/-- The properties of both clients. What was chosen for a client by name wins over the defaults
of its servers. -/
def clients (d : Draft) (groupName : String) : Except ConfigError (Properties × Properties) :=
  match d.servers with
  | none => .ok (d.producer, d.consumer)
  | some addresses => do
    let producer ← Properties.producerDefaults addresses
    let consumer ← Properties.consumerDefaults addresses groupName
    return (producer.merge d.producer, consumer.merge d.consumer)

/-- Checks a draft. A consumer of given servers joins the group `groupName`. -/
def check (d : Draft) (groupName : String) : Except ConfigError Settings :=
  if Text.isBlank d.topic then .error .missingTopic
  else if d.pollTimeout = 0 then .error .zeroPollTimeout
  else if d.retryCount = 0 then .error .zeroRetryCount
  else do
    let (producer, consumer) ← d.clients groupName
    return ⟨d.topic, d.pollTimeout, d.retryCount, d.halt, producer, consumer⟩

end Draft

end Settings

end PositionLog
