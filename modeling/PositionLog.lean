import PositionLog.Bytes
import PositionLog.Text.Utf8
import PositionLog.Text.Blank
import PositionLog.Text.Numeral
import PositionLog.Text.Printable
import PositionLog.Text.Quoted
import PositionLog.Slots
import PositionLog.Log
import PositionLog.Table
import PositionLog.Pool
import PositionLog.Partitioner
import PositionLog.Error
import PositionLog.GroupId
import PositionLog.Properties
import PositionLog.Settings
import PositionLog.Position
import PositionLog.Record
import PositionLog.Notice
import PositionLog.RecencyCache
import PositionLog.Broker.Store
import PositionLog.Broker.Basic
import PositionLog.Broker.Command
import PositionLog.Broker.Producer
import PositionLog.Broker.Consumer
import PositionLog.Broker.Factory
import PositionLog.Observation
import PositionLog.Shared
import PositionLog.Act
import PositionLog.Listener
import PositionLog.Client
import PositionLog.Writer
import PositionLog.Deserializer
import PositionLog.Replay
import PositionLog.Checkpointer.Basic
import PositionLog.Checkpointer.Lifecycle
import PositionLog.Checkpointer.Restore
import PositionLog.Scripted.Producer
import PositionLog.Scripted.Consumer
import PositionLog.Scripted.Factory
import PositionLog.Scripted.Deserializer
import PositionLog.Kafka.Library
import PositionLog.Kafka.Producer
import PositionLog.Kafka.Consumer
import PositionLog.Kafka.Factory
import PositionLog.Kafka.Offline
import PositionLog.Session.Clients
import PositionLog.Session.Step
import PositionLog.Session.Basic
import PositionLog.Session.Run
import PositionLog.Proofs.Text.Utf8
import PositionLog.Proofs.Position
import PositionLog.Proofs.Recency
import PositionLog.Proofs.Recovery.Window
import PositionLog.Proofs.Recovery.Meanwhile
import PositionLog.Proofs.Checkpointer.Init
import PositionLog.Proofs.Replay.Delivery
import PositionLog.Proofs.Replay.Outcomes
import PositionLog.Proofs.Broker.Turns
import PositionLog.Proofs.Broker.Subscription
import PositionLog.Proofs.Checkpointer.Conservation
import PositionLog.Proofs.Writer
import PositionLog.Proofs.Checkpointer.Reports
import PositionLog.Proofs.Checkpointer.Release
import PositionLog.Proofs.Checkpointer.Subscribed
import PositionLog.Proofs.Checkpointer.Early
import PositionLog.Proofs.Broker.Partitions
import PositionLog.Proofs.Checkpointer.Repeated
import PositionLog.Proofs.Checkpointer.Command
import PositionLog.Proofs.Checkpointer.Lifetime
import PositionLog.Proofs.Alarms.Basic
import PositionLog.Proofs.Alarms.Clients
import PositionLog.Proofs.Alarms.Checkpointer
import PositionLog.Proofs.Alarms.Site
import PositionLog.Proofs.Alarms.Overheard
import PositionLog.Proofs.Alarms.Failures
import PositionLog.Proofs.Recency.Changes
import PositionLog.Proofs.Broker.Taking
import PositionLog.Proofs.Checkpointer.Inert
import PositionLog.Proofs.Checkpointer.Cleanup
import PositionLog.Proofs.Settings
import PositionLog.Proofs.Codec
import PositionLog.Proofs.Checkpointer.Creation
import PositionLog.Proofs.Replay.Stops
import PositionLog.Proofs.Checkpointer.Stops
import PositionLog.Proofs.Rewind.Words
import PositionLog.Proofs.Rewind.Visits
import PositionLog.Proofs.Broker.Seeking
import PositionLog.Proofs.Broker.Contract
