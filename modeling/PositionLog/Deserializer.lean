import PositionLog.Writer

/-! # Deserializers

What takes the records of a replay.
-/

namespace PositionLog

/-- A deserializer, and the write path that is open while it works. There is none if nobody but
the reader works on the log. -/
structure Intake (D P : Type) where
  deserializer : D
  write : Option (WritePath P) := none

class Deserializer (D : Type) where
  /-- Takes a record, and says whether it wants the next one. -/
  deserialize : {P : Type} → [LogProducer P] → (key value : Bytes) → Act (Intake D P) Bool
  /-- How many records at most it may still add to the log. -/
  appends : D → Nat

/-- Loads positions into a cache, and counts the records that it sees. -/
structure Loader where
  cache : Nat
  counter : Nat
  /-- The record after which it asks to stop. -/
  stopAt : Option Nat := none
deriving DecidableEq, Repr, Inhabited

namespace Loader

def create (cache : Nat) (stopAt : Option Nat) : StateM Shared Loader :=
  return { cache, counter := ← Shared.newCounter, stopAt }

def seen (l : Loader) : StateM Shared Nat := return (← get).counters.get l.counter

/-- A record whose value is no offset is seen, but not loaded. -/
def load (l : Loader) (key value : Bytes) : StateM Shared Bool := do
  modify fun w => { w with counters := w.counters.modify l.counter (· + 1) }
  match Position.ofRecord? key value with
  | none => pure ()
  | some p => Shared.modifyCache l.cache (·.add p.stream p.offset)
  return l.stopAt != some (← l.seen)

end Loader

instance : Deserializer Loader where
  deserialize key value := do (← get).deserializer.load key value
  appends _ := 0

end PositionLog
