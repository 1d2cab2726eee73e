import PositionLog.Session.Clients
import PositionLog.Checkpointer.Lifecycle
import PositionLog.Checkpointer.Restore

/-! # Steps of a session

A session keeps brokers, caches, clients and checkpointers under names, and works with them step
by step.
-/

namespace PositionLog.Session

inductive ProducerSpec where
  | memory (failsToClose : Bool)
  | scripted (script : Scripted.ProducerScript)
  | offline (factory : Offline.Factory) (properties : Properties)

inductive ConsumerSpec where
  | memory (maxPollRecords : Nat) (failsToClose : Bool)
  | scripted (script : Scripted.ConsumerScript)
  | offline (factory : Offline.Factory) (properties : Properties)

inductive FactorySpec where
  | memory (factory : Broker.Factory)
  | scripted (producers : List (Except BrokerError Scripted.ProducerScript))
      (consumers : List (Except BrokerError Scripted.ConsumerScript))
  | offline (factory : Offline.Factory)

/-- What takes records: a loader by name, or a script. -/
inductive DeserializerSpec where
  | loader (name : String)
  | scripted (script : Scripted.Deserializer)

structure AdapterSpec where
  cache : Option String := none
  deserializer : Option DeserializerSpec := none

structure CheckpointerSpec where
  draft : Settings.Draft
  factory : FactorySpec
  /-- A producer to take over. -/
  producer : Option String := none
  /-- A consumer to take over. -/
  consumer : Option String := none
  adapter : Option AdapterSpec := none

/-- Where a client is found: under a name of its own, or with a checkpointer that holds it. -/
inductive Handle where
  | named (name : String)
  | heldBy (checkpointer : String)

inductive CacheStep where
  | create (capacity : Int)
  | add (p : Position)
  | get (stream : String)
  | clear
  | dump

inductive LoaderStep where
  | create (cache : String) (stopAt : Option Nat)
  | load (key value : Bytes)
  | seen

inductive LossStep where
  | create
  | push (l : Loss)
  | clear
  | dump

inductive ProducerStep where
  | send (topic : String) (key value : Bytes)
  | close
  | show

inductive WriterStep where
  | create (topic : String)
  | append (producer : Handle) (key value : Bytes)
  | losses
  | clear
  | topic

inductive ConsumerStep where
  | subscribe (topic : String) (listener : Option Listener)
  | unsubscribe
  | close
  | stall (polls : Nat)
  | poll
  | firstBatch (polls : Nat)
  | replay (retries : Nat) (halt : HaltScope) (into : DeserializerSpec)
  | show

inductive CheckpointerStep where
  | init
  | start
  | stop
  | build
  | subscribe
  | unsubscribe
  | publish (p : Position)
  /-- One position for each number from `first` up to `last`, the latter left out: its stream is
  `stem` and the number, its offset the number times `factor`. -/
  | publishMany (stem : String) (first last factor : Int)
  | restore
  | losses
  | clearLosses
  | setPollTimeout (timeout : Nat)
  | setAdapter (adapter : AdapterSpec)
  | mirror (p : Position)
  | adapter
  | settings
  | clients

inductive Step where
  | broker (c : Broker.Command)
  | cache (name : String) (x : CacheStep)
  | loader (name : String) (x : LoaderStep)
  | losses (name : String) (x : LossStep)
  | createProducer (name : String) (spec : ProducerSpec)
  | dropProducer (name : String)
  | producer (h : Handle) (x : ProducerStep)
  | writer (name : String) (x : WriterStep)
  /-- Gives a report to the ticket at a place among those that scripted producers keep. -/
  | deliver (index : Nat) (report : Report)
  | createConsumer (name : String) (spec : ConsumerSpec)
  | dropConsumer (name : String)
  | consumer (h : Handle) (x : ConsumerStep)
  | createCheckpointer (name : String) (spec : CheckpointerSpec)
  | dropCheckpointer (name : String)
  | checkpointer (name : String) (x : CheckpointerStep)

/-- The checkpointer that a step is about. -/
def Step.subject? : Step → Option String
  | createCheckpointer name _ | dropCheckpointer name | checkpointer name _ => some name
  | _ => none

/-- What a checkpointer tells about its adapter. -/
structure AdapterView where
  isCacheable : Bool
  isDeserializable : Bool
  replayDepth : Nat
  text : String
  capacity : Option Int

inductive Answer where
  | done
  | flag (b : Bool)
  | number (n : Int)
  | offset (o : Option Int64)
  | text (s : String)
  /-- There is nobody to ask. -/
  | absent
  | broker (r : Broker.Reply)
  | cache (c : RecencyCache)
  | losses (l : List Loss)
  | queue (l : List Loss)
  | records (l : List Record)
  | summary (s : Replay.Summary)
  | producer (p : AnyProducer)
  | consumer (c : AnyConsumer)
  | adapter (a : AdapterView)
  | settings (s : Settings)
  | clients (producer consumer : Bool)

inductive Fault where
  | config (e : ConfigError)
  | broker (e : BrokerError)
  | checkpointer (e : Error)
  /-- Nothing has this name. -/
  | unknown (name : String)

/-- The state of a checkpointer, as it tells it. -/
structure Standing where
  isInitialized : Bool
  isRunning : Bool
  isStopped : Bool
  isSubscribed : Bool

/-- What comes of a step. -/
structure Outcome where
  result : Except Fault Answer
  observations : List Observation
  notices : List Notice
  standing : Option Standing

end PositionLog.Session
