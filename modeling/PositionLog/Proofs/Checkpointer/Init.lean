import PositionLog.Broker.Factory
import PositionLog.Checkpointer.Lifecycle
import PositionLog.Proofs.Checkpointer.Publish
import PositionLog.Proofs.Checkpointer.Restore

/-!
# What a checkpointer can do once it is initialized

A new checkpointer over a broker in memory can publish and restore as soon as it is initialized.
-/

namespace PositionLog.Checkpointer

open Broker (Consumer Factory Producer)

variable {D : Type}

/-- A checkpointer over a broker in memory that was initialized, and has done nothing else. -/
def ready (settings : Settings) (factory : Factory) (losses : Nat) (cache : Option Nat) (d : D) :
    Checkpointer Factory Producer Consumer D where
  settings
  factory
  phase := .initialized
  write :=
    { writer := ⟨settings.topic, losses⟩
      producer := some { failsToClose := factory.failsProducerClose }
      cache }
  read := .apart
    { failsToClose := factory.failsConsumerClose, maxPollRecords := max 1 factory.maxPollRecords } d

theorem canPublish_ready (settings : Settings) (factory : Factory) (losses : Nat)
    (cache : Option Nat) (d : D) : (ready settings factory losses cache d).CanPublish :=
  ⟨nofun, ⟨_, rfl, rfl⟩, rfl⟩

theorem canRestore_ready {settings : Settings} (factory : Factory) (losses : Nat)
    (cache : Option Nat) (d : D) (hretry : 0 < settings.retryCount) :
    (ready settings factory losses cache d).CanRestore
      { failsToClose := factory.failsConsumerClose, maxPollRecords := max 1 factory.maxPollRecords }
      d :=
  ⟨nofun, rfl, rfl, hretry, Nat.lt_of_lt_of_le Nat.one_pos (Nat.le_max_left 1 _)⟩

end PositionLog.Checkpointer
