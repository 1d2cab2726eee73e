import PositionLog.Proofs.Checkpointer.Steps
import PositionLog.Proofs.Replay.Minutes

/-!
# What is asked of a consumer

All calls of a consumer are noted, with its answers.  That they are changes nothing about what a
checkpointer reads back with it, and a replay adds polls to them and nothing else.
-/

namespace PositionLog

/-- A call of a consumer, and its answer. -/
inductive Called where
  | subscribe (topic : String) (listener : Option Listener) (answer : Except BrokerError Unit)
  | unsubscribe (answer : Except BrokerError Unit)
  | poll (answer : Except BrokerError (List Record))
  | close (answer : Except BrokerError Unit)

/-- A consumer, and the calls of it so far. -/
structure Watched (C : Type) where
  consumer : C
  calls : List Called := []

namespace Watched

variable {C α : Type}

/-- A request to the consumer itself, noted once it is answered. -/
def ask (note : Except BrokerError α → Called) (x : Request C α) : Request (Watched C) α :=
  ExceptT.mk fun s => do
    let (answer, consumer) ← (x s.consumer : StateM Shared _)
    return (answer, ⟨consumer, s.calls ++ [note answer]⟩)

/-- The consumer itself answers the same. -/
theorem ask_eq {note : Except BrokerError α → Called} {x : Request C α} {s s' : Watched C}
    {w w' : Shared} {answer : Except BrokerError α} (h : ask note x s w = ((answer, s'), w')) :
    x s.consumer w = ((answer, s'.consumer), w') ∧ s'.calls = s.calls ++ [note answer] := by
  cases h
  exact ⟨rfl, rfl⟩

instance [LogConsumer C] : LogConsumer (Watched C) where
  subscribe topic l := ask (.subscribe topic l) (LogConsumer.subscribe topic l)
  unsubscribe := ask .unsubscribe LogConsumer.unsubscribe
  poll timeout := ask .poll (LogConsumer.poll timeout)
  close := ask .close LogConsumer.close
  backlog s := LogConsumer.backlog s.consumer

end Watched

/-- A factory whose consumers are watched. -/
structure Watching (F : Type) where
  factory : F

instance {F P C : Type} [ClientFactory F P C] : ClientFactory (Watching F) P (Watched C) where
  createProducer properties :=
    Try.on Watching.factory (fun factory _ => ⟨factory⟩) (ClientFactory.createProducer properties)
  createConsumer properties := do
    let consumer ← Try.on Watching.factory (fun factory _ => ⟨factory⟩)
      (ClientFactory.createConsumer properties : Request F C)
    return { consumer }

section Replay

open Replay

variable {C D P : Type}

/-- Nothing was asked of the consumer meanwhile but to poll. -/
def PollsOnly (q q' : Playback (Watched C) D P) : Prop :=
  ∃ polls : List (Except BrokerError (List Record)),
    q'.consumer.calls = q.consumer.calls ++ polls.map .poll

theorem PollsOnly.refl (q : Playback (Watched C) D P) : PollsOnly q q :=
  ⟨[], (List.append_nil _).symm⟩

theorem PollsOnly.trans {q q' q'' : Playback (Watched C) D P} (h : PollsOnly q q')
    (h' : PollsOnly q' q'') : PollsOnly q q'' := by
  obtain ⟨polls, hpolls⟩ := h
  obtain ⟨polls', hpolls'⟩ := h'
  refine ⟨polls ++ polls', ?_⟩
  rw [hpolls', hpolls, List.map_append, List.append_assoc]

theorem closed_pollsOnly : Act.Closed fun {α : Type} (x : Act (Playback (Watched C) D P) α) =>
    ∀ q w, PollsOnly q (x q w).1.2 where
  pure _ q _ := .refl q
  bind hx hg q w := (hx q w).trans (hg _ _ _)
  tell _ q _ := .refl q

variable [LogConsumer C]

theorem pollsOnly_run [LogProducer P] [Deserializer D] (timeout retries : Nat) (halt : HaltScope)
    (q : Playback (Watched C) D P) (w : Shared) :
    PollsOnly q (Playback.run timeout retries halt q w).1.2 := by
  rw [Playback.run_apply]
  have hpoll (q : Playback (Watched C) D P) (w : Shared) :
      PollsOnly q (Playback.poll timeout q w).1.2 := ⟨[_], rfl⟩
  have htake (key value : Bytes) (q : Playback (Watched C) D P) (w : Shared) :
      PollsOnly q (Playback.take key value q w).1.2 := .refl q
  exact (closed_pollsOnly.run BrokerError).drain hpoll htake retries halt (q.rounds w) {} q w

/-- The same, if nobody watches. -/
def Playback.unwatched (q : Playback (Watched C) D P) : Playback C D P :=
  { q.toIntake with consumer := q.consumer.consumer }

/-- That the calls are noted changes nothing about a replay. -/
theorem abstracts_run_unwatched [LogProducer P] [Deserializer D] (timeout retries : Nat)
    (halt : HaltScope) :
    Abstracts (Playback.unwatched : Playback (Watched C) D P → Playback C D P)
      (Playback.run timeout retries halt).run (Playback.run timeout retries halt).run := by
  intro q w
  rw [Try.run_apply, Try.run_apply, Playback.run_apply, Playback.run_apply]
  have hpoll : Abstracts (Playback.unwatched : Playback (Watched C) D P → Playback C D P)
      (Playback.poll timeout).run (Playback.poll timeout).run := fun _ _ => rfl
  have htake (key value : Bytes) :
      Abstracts (Playback.unwatched : Playback (Watched C) D P → Playback C D P)
        (Playback.take key value) (Playback.take key value) := fun _ _ => rfl
  exact ((congruence_abstracts _).run _).drain hpoll htake retries halt (q.rounds w) {} q w

end Replay

namespace Checkpointer

variable {F P C D : Type}

/-- The same checkpointer, if nobody watches its consumer. -/
def unwatched (s : Checkpointer F P (Watched C) D) : Checkpointer F P C D where
  settings := s.settings
  factory := s.factory
  phase := s.phase
  write := s.write
  read := ⟨s.read.consumer.map (·.consumer), s.read.subscribed, s.read.deserializer⟩

variable [LogConsumer C]

theorem joining_unwatched (s : Checkpointer F P (Watched C) D) (c : Watched C) (w : Shared) :
    s.unwatched.joining c.consumer w =
      (((s.joining c w).1.1, (s.joining c w).1.2.consumer), (s.joining c w).2) := by
  have hsubscribed : s.unwatched.isSubscribed = s.isSubscribed := rfl
  rw [joining, joining, hsubscribed]
  cases s.isSubscribed <;> rfl

/-- To join the topic is to ask for it once, or not at all. -/
theorem calls_joining (s : Checkpointer F P (Watched C) D) (c : Watched C) (w : Shared) :
    let depth := (s.replayDepth w).1
    (s.joining c w).1.2.calls = c.calls ++
      if s.isSubscribed then []
      else [.subscribe s.topic (if 1 ≤ depth then some (.rewind ⟨depth⟩) else none)
        (s.joining c w).1.1] := by
  rw [joining]
  cases s.isSubscribed with
  | true => exact (List.append_nil _).symm
  | false => rfl

end Checkpointer

end PositionLog
