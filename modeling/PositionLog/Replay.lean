import PositionLog.Deserializer

/-! # Replays

A replay hands all that a consumer finds to a deserializer, batch by batch, until the consumer
finds nothing more.
-/

namespace PositionLog.Replay

/-- What a finished replay amounts to. -/
structure Summary where
  /-- The batches that held something. -/
  batches : Nat := 0
  /-- The records handed on. -/
  records : Nat := 0
  /-- Whether the deserializer asked to stop. -/
  halted : Bool := false
deriving DecidableEq, Repr, Inhabited

section Loop

variable {S : Type} (poll : Request S (List Record)) (take : Bytes → Bytes → Act S Bool)

/-- The first batch that is not empty, if it comes with one of so many polls. -/
def firstBatch : (polls : Nat) → Request S (List Record)
  | 0 => return []
  | polls + 1 => do
    let batch ← poll
    if batch.isEmpty then firstBatch polls else return batch

/-- Hands records on, up to the first that is answered by a stop. Tells how many were handed on,
counted from `records`, and whether there was a stop. -/
def feed (records : Nat) : List Record → Act S (Nat × Bool)
  | [] => return (records, false)
  | r :: batch => do
    Shared.tell (.read r.partition r.offset)
    if ← take r.key r.value then feed (records + 1) batch
    else return (records + 1, true)

/-- Takes in at most so many batches. -/
def drain (retries : Nat) (halt : HaltScope) : (rounds : Nat) → Summary → Request S Summary
  | 0, s => return s
  | rounds + 1, s => do
    let batch ← firstBatch poll retries
    if batch.isEmpty then return s
    Shared.tell (.batch batch.length)
    let (records, halted) ← feed take s.records batch
    let s : Summary := ⟨s.batches + 1, records, s.halted || halted⟩
    if halted && halt = .replay then
      Shared.tell .replayEnded
      return s
    drain retries halt rounds s

end Loop

/-- A consumer, and what takes its records. -/
structure Playback (C D P : Type) extends Intake D P where
  consumer : C

namespace Playback

variable {C D P : Type} [LogConsumer C] [Deserializer D] [LogProducer P]

def poll (timeout : Nat) : Request (Playback C D P) (List Record) :=
  Try.on consumer (fun consumer s => { s with consumer }) (LogConsumer.poll timeout)

def take (key value : Bytes) : Act (Playback C D P) Bool :=
  Act.on toIntake (fun toIntake s => { s with toIntake }) (Deserializer.deserialize key value)

/-- More batches than a replay can find: each takes a record from the backlog, to which only the
deserializer may add. -/
def rounds (s : Playback C D P) (w : Shared) : Nat :=
  LogConsumer.backlog s.consumer w + Deserializer.appends s.deserializer + 1

/-- Replays until so many polls in a row find nothing. -/
def run (timeout retries : Nat) (halt : HaltScope) : Request (Playback C D P) Summary := do
  let rounds := (← get).rounds (← getThe Shared)
  drain (poll timeout) take retries halt rounds {}

end Playback

end PositionLog.Replay
