import PositionLog.Broker.Command
import PositionLog.Position
import PositionLog.Properties

/-! # Observations

What those who were placed to watch have seen: scripted clients, listeners and deserializers, and
whoever follows delivery reports.
-/

namespace PositionLog

/-- A call on a client, a factory, or the cursor of an assignment. -/
inductive Call where
  | create (role : ClientRole) (properties : Properties)
  | send (topic : String) (key value : Bytes)
  | closeProducer
  | subscribe (topic : String) (listener : Bool)
  | unsubscribe
  | poll (timeout : Nat)
  | closeConsumer
  | endOffset (partition : TopicPartition)
  | seek (partition : TopicPartition) (offset : Int)
deriving DecidableEq, Repr

/-- What is done while a record is replayed. -/
inductive Hook where
  | broker (command : Broker.Command)
  | publish (position : Position)
  | losses
  | clearLosses
deriving DecidableEq, Repr

/-- How many records a hook may append. -/
def Hook.appends : Hook → Nat
  | broker command => command.appends
  | publish _ => 1
  | losses | clearLosses => 0

inductive HookReply where
  | broker (reply : Except BrokerError Broker.Reply)
  | published (result : Except Error Unit)
  | losses (l : List Loss)
  | cleared
deriving DecidableEq, Repr

inductive Observation where
  /-- A call on the scripted party with this number. -/
  | called (party : Nat) (call : Call)
  | reported (report : Report)
  | revoked (partitions : List TopicPartition)
  | assigned (partitions : List TopicPartition)
  | endAnswered (answer : Except BrokerError Int)
  | seekAnswered (answer : Except BrokerError Unit)
  | record (key value : Bytes)
  | hooked (reply : HookReply)
deriving DecidableEq, Repr

end PositionLog
