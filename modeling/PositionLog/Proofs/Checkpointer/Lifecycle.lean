import PositionLog.Broker.Factory
import PositionLog.Proofs.Broker.Append
import PositionLog.Proofs.Checkpointer.Command
import PositionLog.Proofs.Congruence

/-!
# What the life of a checkpointer leaves alone

A checkpointer over a broker in memory gets its clients, closes them and drops them.  It does so
without touching what is on the log, in the caches, or lost.
-/

namespace PositionLog.Checkpointer

open Broker (Consumer Factory Producer)

/-- Closes the producer, and keeps it. -/
def closeHeld {F P C D : Type} [LogProducer P] : Act (Checkpointer F P C D) Unit := do
  let _ ← onProducer (LogProducer.close : Request P Unit).run

/-- The checkpointer has the writer and the cache that it had, and nothing was published, lost or
cached. -/
structure Untouched {F P C D : Type} (s : Checkpointer F P C D) (w : Shared)
    (s' : Checkpointer F P C D) (w' : Shared) : Prop where
  writer : s'.write.writer = s.write.writer
  cache : s'.write.cache = s.write.cache
  logs : w.broker.SameLogs w'.broker
  caches : w'.caches = w.caches
  losses : w'.losses = w.losses

section Untouched

variable {F P C D : Type} {s s' s'' : Checkpointer F P C D} {w w' w'' : Shared}

theorem Untouched.refl (s : Checkpointer F P C D) (w : Shared) : Untouched s w s w :=
  ⟨rfl, rfl, .refl _, rfl, rfl⟩

theorem Untouched.trans (h : Untouched s w s' w') (h' : Untouched s' w' s'' w'') :
    Untouched s w s'' w'' :=
  ⟨h'.writer.trans h.writer, h'.cache.trans h.cache, h.logs.trans h'.logs,
    h'.caches.trans h.caches, h'.losses.trans h.losses⟩

end Untouched

variable {D : Type} (s : Checkpointer Factory Producer Consumer D) (w : Shared)

theorem untouched_createConsumer :
    Untouched s w (createConsumer s w).1.2 (createConsumer s w).2 := by
  rcases s with ⟨_, ⟨_, _ | _, _, _, _⟩, _, _, ⟨_ | _, _, _⟩⟩ <;>
    exact ⟨rfl, rfl, ⟨rfl, rfl⟩, rfl, rfl⟩

theorem untouched_createProducer :
    Untouched s w (createProducer s w).1.2 (createProducer s w).2 := by
  rcases s with ⟨_, ⟨_ | _, _, _, _, _⟩, _, ⟨_, _ | _, _⟩, _⟩ <;>
    exact ⟨rfl, rfl, ⟨rfl, rfl⟩, rfl, rfl⟩

theorem untouched_finishInit : Untouched s w (finishInit s) w := by
  unfold finishInit
  split <;> exact ⟨rfl, rfl, .refl _, rfl, rfl⟩

theorem untouched_told (n : Log Notice) : Untouched s w s (w.withNotices n) :=
  ⟨rfl, rfl, ⟨rfl, rfl⟩, rfl, rfl⟩

theorem closed_untouched : Act.Closed fun {α : Type}
    (x : Act (Checkpointer Factory Producer Consumer D) α) =>
      ∀ s w, Untouched s w (x s w).1.2 (x s w).2 where
  pure _ s w := .refl s w
  bind hx hg s w := (hx s w).trans (hg _ _ _)
  tell _ s w := untouched_told s w _

/-- Whether both clients can be created, or one, or neither. -/
theorem untouched_init : Untouched s w (init s w).1.2 (init s w).2 :=
  closed_untouched.init .refl untouched_createConsumer untouched_createProducer untouched_finishInit
    s w

theorem untouched_start : Untouched s w (start s w).1.2 (start s w).2 := by
  rcases s with ⟨_, _, _ | _ | _ | _, _, _⟩ <;> exact ⟨rfl, rfl, ⟨rfl, rfl⟩, rfl, rfl⟩

theorem untouched_closeHeld : Untouched s w (closeHeld s w).1.2 (closeHeld s w).2 := by
  rcases s with ⟨_, _, _, ⟨_, _ | ⟨_ | _, _ | _⟩, _⟩, _⟩ <;> exact ⟨rfl, rfl, ⟨rfl, rfl⟩, rfl, rfl⟩

theorem untouched_closeProducer : Untouched s w (closeProducer s w).1.2 (closeProducer s w).2 := by
  rcases s with ⟨_, _, _, ⟨_, _ | ⟨_ | _, _ | _⟩, _⟩, _⟩ <;> exact ⟨rfl, rfl, ⟨rfl, rfl⟩, rfl, rfl⟩

theorem untouched_closeConsumer : Untouched s w (closeConsumer s w).1.2 (closeConsumer s w).2 := by
  rcases s with ⟨_, _, _, _, ⟨_ | ⟨_, _ | _, _ | _, _, _, _, _⟩, _, _⟩⟩ <;>
    exact ⟨rfl, rfl, ⟨rfl, rfl⟩, rfl, rfl⟩

theorem untouched_stop : Untouched s w (stop s w).1.2 (stop s w).2 := by
  rw [stop, Act.bind_of_eq (Act.get_apply s w)]
  cases hstopped : s.isStopped with
  | true => exact .refl s w
  | false =>
    have hphase : Untouched s w { s with phase := .stopped } w := ⟨rfl, rfl, .refl _, rfl, rfl⟩
    have hproducer := hphase.trans (untouched_closeProducer _ w)
    have hclients := hproducer.trans (untouched_closeConsumer _ _)
    exact hclients.trans ⟨rfl, rfl, .refl _, rfl, rfl⟩

end PositionLog.Checkpointer
