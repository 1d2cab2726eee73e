import PositionLog.Replay

/-! # Checkpointers

A checkpointer publishes positions on a topic of its own, and when it starts anew replays the
topic to know them again. Two clients do its work: a producer on the write path, a consumer on the
read path.
-/

namespace PositionLog

/-- Where a checkpointer reads positions back. -/
structure ReadPath (C D : Type) where
  consumer : Option C := none
  subscribed : Bool := false
  deserializer : Option D := none

/-- What a checkpointer is to work with: a cache that mirrors what it publishes, a deserializer
that takes what it replays, both or neither. -/
structure Adapter (D : Type) where
  cache : Option Nat := none
  deserializer : Option D := none

inductive Phase where
  | uninitialized
  | initialized
  | running
  | stopped
deriving DecidableEq, Repr, Inhabited

structure Checkpointer (F P C D : Type) where
  settings : Settings
  factory : F
  phase : Phase := .uninitialized
  write : WritePath P
  read : ReadPath C D := {}

namespace Adapter

variable {D : Type}

/-- What an adapter shows of itself. -/
def render (a : Adapter D) : String :=
  "ResumeAdapter \x7b cacheable: " ++ toString a.cache.isSome ++ ", deserializable: " ++
    toString a.deserializer.isSome ++ " \x7d"

end Adapter

namespace Checkpointer

variable {F P C D : Type}

/-- A checkpointer without clients. -/
def create (settings : Settings) (factory : F) : StateM Shared (Checkpointer F P C D) :=
  return { settings, factory, write := { writer := ← Writer.create settings.topic } }

def setProducer (s : Checkpointer F P C D) (producer : Option P) : Checkpointer F P C D :=
  { s with write := { s.write with producer } }

def setConsumer (s : Checkpointer F P C D) (consumer : Option C) : Checkpointer F P C D :=
  { s with read := { s.read with consumer } }

def withAdapter (s : Checkpointer F P C D) (a : Adapter D) : Checkpointer F P C D :=
  { s with
    write := { s.write with cache := a.cache }
    read := { s.read with deserializer := a.deserializer } }

def adapter (s : Checkpointer F P C D) : Adapter D := ⟨s.write.cache, s.read.deserializer⟩

def topic (s : Checkpointer F P C D) : String := s.settings.topic

def isInitialized (s : Checkpointer F P C D) : Bool :=
  s.write.producer.isSome && s.read.consumer.isSome

def isRunning (s : Checkpointer F P C D) : Bool := s.phase = .running

def isStopped (s : Checkpointer F P C D) : Bool := s.phase = .stopped

def isSubscribed (s : Checkpointer F P C D) : Bool := s.read.subscribed

/-- How far each partition is read back: as many records as the cache holds, or all. -/
def replayDepth (s : Checkpointer F P C D) : StateM Shared Nat :=
  match s.write.cache with
  | none => return 0
  | some i => return (← Shared.cache i).replayDepth

def losses (s : Checkpointer F P C D) : StateM Shared (List Loss) := s.write.writer.lost

def clearLosses (s : Checkpointer F P C D) : StateM Shared Unit := s.write.writer.forget

/-- A step on the write path. -/
def onWrite {α : Type} (x : Operation (WritePath P) α) : Operation (Checkpointer F P C D) α :=
  Try.on write (fun write s => { s with write }) x

/-- A step on the read path. -/
def onRead {α : Type} (x : Operation (ReadPath C D) α) : Operation (Checkpointer F P C D) α :=
  Try.on read (fun read s => { s with read }) x

def setPollTimeout (timeout : Nat) : Operation (Checkpointer F P C D) Unit := do
  match (← get).settings.withPollTimeout timeout with
  | .error cause => throw (.config cause)
  | .ok settings => modify ({ · with settings })

/-- Publishes a position. -/
def publish [LogProducer P] (p : Position) : Operation (Checkpointer F P C D) Unit := do
  if (← get).isStopped then throw .stopped
  onWrite (WritePath.publish p)

end Checkpointer

end PositionLog
