import PositionLog.Client

/-! # Writers

A writer sends records to one topic and does not wait for the broker. What is lost on the way is
kept under the key of its record.
-/

namespace PositionLog

structure Writer where
  topic : String
  /-- Under which number its losses are kept. -/
  losses : Nat
deriving DecidableEq, Repr, Inhabited

namespace Writer

def create (topic : String) : StateM Shared Writer := return ⟨topic, ← Shared.newLosses⟩

variable {P : Type} [LogProducer P]

/-- Sends a record. Only a closed producer is an error; a record that is refused for another
reason, or whose delivery fails, is a loss. -/
def append (x : Writer) (key value : Bytes) : Request P Unit := do
  match ← (LogProducer.transmit x.topic key value (.writer x.losses key) : Request P _).outcome with
  | .ok () => pure ()
  | .error .closed => throw .closed
  | .error cause =>
    Shared.tell (.sendRefused x.topic cause)
    Shared.lose x.losses ⟨key, none, cause⟩

def lost (x : Writer) : StateM Shared (List Loss) :=
  return ((← get).losses.get x.losses).toList

def forget (x : Writer) : StateM Shared Unit :=
  modify fun w => { w with losses := w.losses.modify x.losses fun _ => {} }

end Writer

/-- Where a checkpointer publishes positions. -/
structure WritePath (P : Type) where
  writer : Writer
  producer : Option P := none
  /-- The cache that mirrors what is published. -/
  cache : Option Nat := none

namespace WritePath

variable {P : Type}

/-- Adds a position to the cache, if there is one. -/
def mirror (s : WritePath P) (p : Position) : StateM Shared Unit :=
  match s.cache with
  | none => pure ()
  | some i => Shared.modifyCache i (·.add p.stream p.offset)

/-- Publishes a position. It is mirrored whether or not it is taken. -/
def publish [LogProducer P] (p : Position) : Operation (WritePath P) Unit := do
  let s ← get
  match s.producer with
  | none => throw .notInitialized
  | some producer =>
    Shared.tell (.updating s.writer.topic p.key.length p.value.length)
    let (result, producer) ← (s.writer.append p.key p.value producer : StateM Shared _)
    set { s with producer := some producer }
    s.mirror p
    match result with
    | .ok () => pure ()
    | .error cause => throw (.broker cause)

end WritePath

end PositionLog
