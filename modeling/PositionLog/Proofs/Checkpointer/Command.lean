import PositionLog.Checkpointer.Lifecycle
import PositionLog.Checkpointer.Restore
import PositionLog.Proofs.Shared

/-!
# What a checkpointer can be told to do

The owner of a checkpointer may tell it to do anything at any time, with clients of any kind.
-/

namespace PositionLog.Checkpointer

/-- What the owner tells a checkpointer to do.  To close it is to stop it. -/
inductive Command (P C D : Type) where
  /-- To use a producer of the owner's.  One that it had is dropped. -/
  | useProducer (producer : P)
  | useConsumer (consumer : C)
  | setAdapter (a : Adapter D)
  | setPollTimeout (timeout : Nat)
  | init
  | start
  | publish (p : Position)
  | subscribe
  | unsubscribe
  | restore
  | clearLosses
  | stop

variable {F P C D : Type} [ClientFactory F P C] [LogProducer P] [LogConsumer C] [Deserializer D]

section Held

variable {F P C D α : Type}

/-- A step of the producer that the checkpointer holds, if it holds one. -/
def onProducer (x : Act P α) : Act (Checkpointer F P C D) (Option α) :=
  Act.on (·.write.producer) (fun producer s => s.setProducer producer) x.onSome

/-- A step of the consumer that the checkpointer holds, if it holds one. -/
def onConsumer (x : Act C α) : Act (Checkpointer F P C D) (Option α) :=
  Act.on (·.read.consumer) (fun consumer s => s.setConsumer consumer) x.onSome

variable {x : Act P α} {s : Checkpointer F P C D} {w w' : Shared}

theorem onProducer_of_none (h : s.write.producer = none) : onProducer x s w = ((none, s), w) := by
  have hsame : s.setProducer none = s := by rw [setProducer, ← h]
  rw [onProducer, Act.on_apply, h, Act.onSome_none, hsame]

theorem onProducer_of_some {producer producer' : P} {a : α}
    (h : s.write.producer = some producer) (hx : x producer w = ((a, producer'), w')) :
    onProducer x s w = ((some a, s.setProducer (some producer')), w') := by
  rw [onProducer, Act.on_apply, h, Act.onSome_some, hx]

end Held

/-- Uses another producer, and drops the one that there was. -/
def replaceProducer (producer : P) : Act (Checkpointer F P C D) Unit := do
  let s ← get
  match s.write.producer with
  | none => pure ()
  | some old => LogProducer.drop old
  set (s.setProducer (some producer))

/-- A checkpointer does what it is told to, and answers. -/
def Command.run : Command P C D → Act (Checkpointer F P C D) (Except Error Unit)
  | useProducer producer => do return .ok (← replaceProducer producer)
  | useConsumer consumer => do return .ok (← modify (·.setConsumer (some consumer)))
  | setAdapter a => do return .ok (← modify (·.withAdapter a))
  | setPollTimeout timeout => (Checkpointer.setPollTimeout timeout).run
  | init => Checkpointer.init.run
  | start => Checkpointer.start.run
  | publish p => (Checkpointer.publish p).run
  | subscribe => Checkpointer.subscribe.run
  | unsubscribe => do return .ok (← Checkpointer.unsubscribe)
  | restore => do return (← Checkpointer.restore.run).map fun _ => ()
  | clearLosses => do return .ok (← (← get).clearLosses)
  | stop => do return .ok (← Checkpointer.stop)

end PositionLog.Checkpointer
