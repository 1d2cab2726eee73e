import PositionLog.Record
import PositionLog.Text.Quoted

/-! # Notices

What the library tells about its own work, for people to read.
-/

namespace PositionLog

inductive Level where
  | trace
  | debug
  | info
  | warn
  | error
deriving DecidableEq, Repr

namespace Level

def name : Level → String
  | trace => "TRACE"
  | debug => "DEBUG"
  | info => "INFO"
  | warn => "WARN"
  | error => "ERROR"

end Level

inductive Notice where
  | groupCreated (groupName : String)
  | initializing (topic : String)
  | creationFailed (role : ClientRole) (cause : BrokerError)
  | starting (topic : String)
  | closing (role : ClientRole)
  | closeFailed (role : ClientRole) (cause : BrokerError)
  | updating (topic : String) (keyLength valueLength : Nat)
  | deliveryFailed (cause : BrokerError)
  | sendRefused (topic : String) (cause : BrokerError)
  | subscribing (topic : String) (depth : Nat)
  | unsubscribeSkipped (topic : String)
  | unsubscribeFailed (topic : String) (cause : BrokerError)
  | loading (topic : String)
  | loaded (topic : String) (batches records : Nat)
  | endUnknown (partition : TopicPartition) (cause : BrokerError)
  | seeking (partition : TopicPartition) (end_ target : Int)
  | seekFailed (partition : TopicPartition) (target : Int) (cause : BrokerError)
  | seekIgnored (partition : TopicPartition) (end_ : Int) (depth : Nat)
  | batch (records : Nat)
  | read (partition offset : Int)
  | replayEnded
  | flushing (milliseconds : Nat)
  | consumerCreated (groupName : Option String)
deriving DecidableEq, Repr

namespace Notice

def level : Notice → Level
  | read .. => .trace
  | groupCreated .. | initializing .. | updating .. | subscribing .. | loading .. | loaded ..
  | seeking .. | batch .. | replayEnded | flushing .. | consumerCreated .. => .debug
  | starting .. | closing .. | seekIgnored .. => .info
  | closeFailed .. | unsubscribeSkipped .. | endUnknown .. | seekFailed .. => .warn
  | creationFailed .. | deliveryFailed .. | sendRefused .. | unsubscribeFailed .. => .error

def message : Notice → String
  | groupCreated .. => "creating consumer properties"
  | initializing .. => "initializing the resume strategy"
  | creationFailed role _ => "failed to create the " ++ role.name
  | starting .. => "starting the resume strategy"
  | closing role => "closing the " ++ role.name
  | closeFailed role _ => "failed to close the " ++ role.name
  | updating .. => "updating offset"
  | deliveryFailed .. => "failed to send position record"
  | sendRefused .. => "failed to enqueue position record"
  | subscribing .. => "subscribing"
  | unsubscribeSkipped .. => "the consumer is likely already closed, skipping unsubscribe"
  | unsubscribeFailed .. => "error unsubscribing from the topic"
  | loading .. => "loading records from topic"
  | loaded .. => "finished loading records"
  | endUnknown .. => "cannot read end offset, not seeking"
  | seeking .. => "seeking partition for replay"
  | seekFailed .. => "failed to seek partition"
  | seekIgnored .. => "ignoring the seek because the initial offset is negative"
  | batch .. => "replaying batch"
  | read .. => "read from topic"
  | replayEnded => "deserializer requested stop, ending replay"
  | flushing .. => "flushing producer"
  | consumerCreated .. => "creating consumer"

/-- The details of a notice, by name. -/
def fields : Notice → List (String × String)
  | groupCreated groupName => [("group_id", groupName)]
  | initializing topic | starting topic | unsubscribeSkipped topic | loading topic =>
    [("topic", topic)]
  | creationFailed _ cause | closeFailed _ cause | deliveryFailed cause =>
    [("error", cause.message)]
  | closing _ | replayEnded => []
  | updating topic keyLength valueLength =>
    [("topic", topic), ("key_len", toString keyLength), ("value_len", toString valueLength)]
  | sendRefused topic cause | unsubscribeFailed topic cause =>
    [("topic", topic), ("error", cause.message)]
  | subscribing topic depth => [("topic", topic), ("depth", toString depth)]
  | loaded topic batches records =>
    [("topic", topic), ("batches", toString batches), ("records", toString records)]
  | endUnknown partition cause =>
    [("partition", partition.render), ("error", cause.message)]
  | seeking partition end_ target =>
    [("partition", partition.render), ("end_offset", toString end_), ("target", toString target)]
  | seekFailed partition target cause =>
    [("partition", partition.render), ("target", toString target), ("error", cause.message)]
  | seekIgnored partition end_ depth =>
    [("partition", partition.render), ("end_offset", toString end_), ("depth", toString depth)]
  | batch records => [("records", toString records)]
  | read partition offset => [("partition", toString partition), ("offset", toString offset)]
  | flushing milliseconds => [("timeout_ms", toString milliseconds)]
  | consumerCreated groupName => [("group_id", Text.Quoted.option groupName)]

end Notice

end PositionLog
