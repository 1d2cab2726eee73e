import PositionLog.Checkpointer.Basic

/-! # How a checkpointer reads positions back -/

namespace PositionLog

namespace ReadPath

variable {C D : Type} [LogConsumer C]

/-- Joins the topic, unless that was done. -/
def subscribe (topic : String) (depth : Nat) : Operation (ReadPath C D) Unit := do
  let s ← get
  if s.subscribed then return
  match s.consumer with
  | none => throw .notInitialized
  | some consumer =>
    Shared.tell (.subscribing topic depth)
    let listener := if 1 ≤ depth then some (.rewind ⟨depth⟩) else none
    let (result, consumer) ←
      (LogConsumer.subscribe topic listener consumer : StateM Shared (_ × C))
    match result with
    | .ok () => set { s with consumer := some consumer, subscribed := true }
    | .error cause =>
      set { s with consumer := some consumer }
      throw (.broker cause)

/-- Leaves the topic. What goes wrong is told. -/
def unsubscribe (topic : String) : Act (ReadPath C D) Unit := do
  let s ← get
  match s.consumer with
  | none => set { s with subscribed := false }
  | some consumer =>
    let (result, consumer) ← (LogConsumer.unsubscribe consumer : StateM Shared (_ × C))
    set { s with consumer := some consumer, subscribed := false }
    match result with
    | .ok () => pure ()
    | .error .closed => Shared.tell (.unsubscribeSkipped topic)
    | .error cause => Shared.tell (.unsubscribeFailed topic cause)

end ReadPath

namespace Checkpointer

variable {F P C D : Type} [LogConsumer C]

/-- Subscribes to the topic. If the cache is bounded, each partition is read back only as far as
the cache could hold. -/
def subscribe : Operation (Checkpointer F P C D) Unit := do
  let s ← get
  if s.isStopped then throw .stopped
  let depth ← s.replayDepth
  onRead (ReadPath.subscribe s.topic depth)

def unsubscribe : Act (Checkpointer F P C D) Unit := do
  let topic := (← get).topic
  Act.on read (fun read s => { s with read }) (ReadPath.unsubscribe topic)

variable [LogProducer P] [Deserializer D]

/-- Replays the topic it is subscribed to. Meanwhile positions can be published. -/
def replay : Operation (Checkpointer F P C D) Replay.Summary := do
  let s ← get
  match s.read.consumer, s.read.deserializer with
  | none, _ => throw .notInitialized
  | _, none => throw .notDeserializable
  | some consumer, some deserializer =>
    let run := Replay.Playback.run s.settings.pollTimeout s.settings.retryCount s.settings.halt
    let (result, playback) ← (run { consumer, deserializer, write := some s.write } :
      StateM Shared (_ × Replay.Playback C D P))
    set { s with
      write := playback.write.getD s.write
      read := { s.read with
        consumer := some playback.consumer
        deserializer := some playback.deserializer } }
    match result with
    | .ok summary => return summary
    | .error cause => throw (.broker cause)

/-- Subscribes, replays the topic into the deserializer, and unsubscribes. -/
def restore : Operation (Checkpointer F P C D) Replay.Summary := do
  let s ← get
  if s.read.deserializer.isNone then throw .notDeserializable
  subscribe
  Shared.tell (.loading s.topic)
  let result ← (replay : Operation (Checkpointer F P C D) _).outcome
  (unsubscribe : Act (Checkpointer F P C D) Unit)
  match result with
  | .error e => throw e
  | .ok summary =>
    Shared.tell (.loaded s.topic summary.batches summary.records)
    return summary

end Checkpointer

end PositionLog
