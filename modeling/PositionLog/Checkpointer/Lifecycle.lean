import PositionLog.Checkpointer.Basic

/-! # The life of a checkpointer

It is initialized, started and stopped. Once stopped, it stays so.
-/

namespace PositionLog.Checkpointer

variable {F P C D : Type}

section Init

variable [ClientFactory F P C]

/-- Creates the consumer if it is missing. -/
def createConsumer : Act (Checkpointer F P C D) (Option Error) := do
  let s ← get
  if s.read.consumer.isSome then return none
  let (result, factory) ←
    (ClientFactory.createConsumer s.settings.consumer s.factory : StateM Shared (_ × F))
  match result with
  | .ok consumer =>
    set { s.setConsumer (some consumer) with factory }
    return none
  | .error cause =>
    set { s with factory }
    Shared.tell (.creationFailed .consumer cause)
    return some (.creation .consumer cause)

/-- Creates the producer if it is missing. -/
def createProducer : Act (Checkpointer F P C D) (Option Error) := do
  let s ← get
  if s.write.producer.isSome then return none
  let (result, factory) ←
    (ClientFactory.createProducer s.settings.producer s.factory : StateM Shared (_ × F))
  match result with
  | .ok producer =>
    set { s.setProducer (some producer) with factory }
    return none
  | .error cause =>
    set { s with factory }
    Shared.tell (.creationFailed .producer cause)
    return some (.creation .producer cause)

def finishInit (s : Checkpointer F P C D) : Checkpointer F P C D :=
  if s.phase = .uninitialized then { s with phase := .initialized } else s

/-- Creates the clients that are missing, the second also if the first cannot be created. -/
def init : Operation (Checkpointer F P C D) Unit := do
  let s ← get
  if s.isStopped then throw .stopped
  Shared.tell (.initializing s.topic)
  let first ← (createConsumer : Act (Checkpointer F P C D) _)
  let second ← (createProducer : Act (Checkpointer F P C D) _)
  match first.or second with
  | some e => throw e
  | none => modify finishInit

end Init

def start : Operation (Checkpointer F P C D) Unit := do
  let s ← get
  match s.phase with
  | .stopped => throw .stopped
  | .uninitialized => throw .notInitialized
  | .initialized | .running =>
    Shared.tell (.starting s.topic)
    set { s with phase := .running }

section Stop

variable [LogProducer P] [LogConsumer C]

/-- Closes the producer and drops it. -/
def closeProducer : Act (Checkpointer F P C D) Unit := do
  let s ← get
  match s.write.producer with
  | none => pure ()
  | some producer =>
    Shared.tell (.closing .producer)
    let (result, producer) ← (LogProducer.close producer : StateM Shared (_ × P))
    match result with
    | .ok () => pure ()
    | .error cause => Shared.tell (.closeFailed .producer cause)
    LogProducer.drop producer
    set (s.setProducer none)

/-- Closes the consumer and drops it. -/
def closeConsumer : Act (Checkpointer F P C D) Unit := do
  let s ← get
  match s.read.consumer with
  | none => pure ()
  | some consumer =>
    Shared.tell (.closing .consumer)
    let (result, _) ← (LogConsumer.close consumer : StateM Shared (_ × C))
    match result with
    | .ok () => pure ()
    | .error cause => Shared.tell (.closeFailed .consumer cause)
    set (s.setConsumer none)

/-- Closes both clients. That one of them fails is told, and hinders nothing. -/
def stop : Act (Checkpointer F P C D) Unit := do
  if (← get).isStopped then return
  modify ({ · with phase := .stopped })
  closeProducer
  closeConsumer
  modify fun s => { s with read := { s.read with subscribed := false } }

/-- A checkpointer that is dropped stops. -/
def drop (s : Checkpointer F P C D) : StateM Shared Unit := do
  let _ ← stop s

end Stop

end PositionLog.Checkpointer
