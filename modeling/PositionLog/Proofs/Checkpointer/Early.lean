import PositionLog.Proofs.Checkpointer.Restore
import PositionLog.Proofs.Notices

/-!
# Subscribing early

A checkpointer may subscribe long before it restores.  What is published meanwhile is read back all
the same, by the deserializer that it has at the end.  Only how far back it reads is settled when it
subscribes, by the cache that it has then: the listener keeps that depth.
-/

namespace PositionLog

open Broker (Consumer Factory Producer)
open Replay (Transcribed)

variable {F D : Type}

/-- The checkpointer, had its consumer joined the topic before, to be read back to this depth. -/
def Checkpointer.ahead {P : Type} (s : Checkpointer F P Consumer D) (depth : Nat) :
    Checkpointer F P Consumer D :=
  { s with read :=
    { s.read with consumer := s.read.consumer.map (·.joined s.topic depth), subscribed := true } }

namespace Early

open Checkpointer

/-- What may happen between subscribing and restoring. -/
inductive Change (D : Type) where
  | publish (p : Position)
  | setPollTimeout (timeout : Nat)
  | subscribe
  | setAdapter (a : Adapter D)
  /-- Somebody else works on the broker. -/
  | elsewhere (c : Broker.Command)

namespace Change

def run : Change D → Act (Checkpointer F Producer Consumer D) Unit
  | publish p => do
    let _ ← (Checkpointer.publish p).run
  | setPollTimeout timeout => do
    let _ ← (Checkpointer.setPollTimeout timeout).run
  | subscribe => do
    let _ ← Checkpointer.subscribe.run
  | setAdapter a => modify (·.withAdapter a)
  | elsewhere c => do
    let _ ← Shared.command c

def subscribes : Change D → Bool
  | subscribe => true
  | _ => false

end Change

/-- What happens besides subscribing. -/
def others (changes : List (Change D)) : List (Change D) := changes.filter (!·.subscribes)

/-- The checkpointer can still subscribe, with this open consumer. -/
structure Waiting (s : Checkpointer F Producer Consumer D) (c : Consumer) : Prop where
  not_stopped : s.isStopped = false
  consumer : s.read.consumer = some c
  opened : c.closed = false
  apart : s.read.subscribed = false

variable {s : Checkpointer F Producer Consumer D} {c : Consumer} {w v : Shared}

/-! ## Subscribing -/

theorem Waiting.read_eq (h : Waiting s c) : s.read = ⟨some c, false, s.read.deserializer⟩ := by
  rw [← h.consumer, ← h.apart]

/-- The checkpointer joins its topic, to be read back to any depth. -/
theorem Waiting.join_apply (h : Waiting s c) (depth : Nat) (w : Shared) :
    (onRead (ReadPath.subscribe s.topic depth) : Operation _ Unit) s w =
      ((.ok (), s.ahead depth), w.withNotices (w.notices.push (.subscribing s.topic depth))) := by
  have hjoin := ReadPath.subscribe_of_opened h.opened s.read.deserializer s.topic depth w
  rw [← h.read_eq] at hjoin
  rw [onRead, Try.on_apply, hjoin, ahead, h.consumer, Option.map_some]

/-- That depth is that of its cache, if it subscribes. -/
theorem Waiting.subscribe_apply (h : Waiting s c) (w : Shared) :
    subscribe s w =
      ((.ok (), s.ahead (s.depth w)),
        w.withNotices (w.notices.push (.subscribing s.topic (s.depth w)))) := by
  rw [subscribe, Try.bind_of_ok (Try.get_apply s w), h.not_stopped, if_neg Bool.false_ne_true]
  exact (Try.bind_of_ok (Try.lift_of_eq (replayDepth_apply s w))).trans (h.join_apply _ w)

/-- It has subscribed already. -/
theorem Waiting.subscribe_ahead (h : Waiting s c) (depth : Nat) (w : Shared) :
    subscribe (s.ahead depth) w = ((.ok (), s.ahead depth), w) := by
  have hstopped : (s.ahead depth).isStopped = false := h.not_stopped
  rw [subscribe, Try.bind_of_ok (Try.get_apply _ w), hstopped, if_neg Bool.false_ne_true]
  exact (Try.bind_of_ok (Try.lift_of_eq (replayDepth_apply _ w))).trans rfl

/-! ## Meanwhile -/

theorem Change.deaf_run (x : Change D) :
    Deaf (x.run : Act (Checkpointer F Producer Consumer D) Unit) := by
  cases x with
  | publish p => exact Deaf.closed.bind (deaf_publish p) fun _ => Deaf.closed.pure ()
  | setPollTimeout timeout =>
    intro s w
    cases timeout <;> exact ⟨rfl, rfl⟩
  | subscribe => exact Deaf.closed.bind deaf_subscribe fun _ => Deaf.closed.pure ()
  | setAdapter a => exact Deaf.modify _
  | elsewhere c => exact fun _ _ => ⟨rfl, rfl⟩

theorem Change.run_publish (p : Position) (s : Checkpointer F Producer Consumer D) (w : Shared) :
    ∃ n, (publish p).run s w =
      (((), s), w.received (s.reception w.broker) s.write.writer s.write.cache p n) := by
  obtain ⟨n, hpublish⟩ := publish_received p w s
  exact ⟨n, Act.bind_of_eq hpublish⟩

/-- Nothing that happens meanwhile, but to subscribe, depends on whether that was done. -/
theorem Change.run_ahead {x : Change D} (hx : x.subscribes = false)
    (s : Checkpointer F Producer Consumer D) (depth : Nat) (w : Shared) :
    Indistinct (x.run (s.ahead depth) w) (((), (x.run s w).1.2.ahead depth), (x.run s w).2) := by
  cases x with
  | publish p =>
    obtain ⟨n, hahead⟩ := run_publish p (s.ahead depth) w
    obtain ⟨m, hpublish⟩ := run_publish p s w
    rw [hahead, hpublish]
    exact ⟨rfl, rfl⟩
  | setPollTimeout timeout => cases timeout <;> exact ⟨rfl, rfl⟩
  | subscribe => cases hx
  | setAdapter a => exact ⟨rfl, rfl⟩
  | elsewhere c => exact ⟨rfl, rfl⟩

/-- It leaves the consumer alone. -/
theorem Waiting.run (h : Waiting s c) {x : Change D} (hx : x.subscribes = false) (w : Shared) :
    Waiting (x.run s w).1.2 c := by
  cases x with
  | publish p =>
    obtain ⟨n, hpublish⟩ := Change.run_publish p s w
    rw [hpublish]
    exact h
  | setPollTimeout timeout =>
    cases timeout <;> exact ⟨h.not_stopped, h.consumer, h.opened, h.apart⟩
  | subscribe => cases hx
  | setAdapter a => exact ⟨h.not_stopped, h.consumer, h.opened, h.apart⟩
  | elsewhere c => exact h

/-- A checkpointer that has subscribed and one that has not stay indistinct. -/
theorem Waiting.forM_run (h : Waiting s c) (changes : List (Change D)) (depth : Nat)
    (hw : w.silent = v.silent) :
    let x := (others changes).forM Change.run s v
    Waiting x.1.2 c ∧
      Indistinct (changes.forM Change.run (s.ahead depth) w) (((), x.1.2.ahead depth), x.2) := by
  induction changes generalizing s w v with
  | nil => exact ⟨h, rfl, hw⟩
  | cons x changes ih =>
    cases hx : x.subscribes with
    | true =>
      obtain rfl : x = .subscribe := by
        cases x <;> first | rfl | cases hx
      have hstep : Change.subscribe.run (s.ahead depth) w = (((), s.ahead depth), w) :=
        Act.bind_of_eq (h.subscribe_ahead depth w)
      rw [Act.forM_cons_of_eq hstep]
      exact ih h hw
    | false =>
      have hothers : others (x :: changes) = x :: others changes :=
        List.filter_cons_of_pos (by rw [hx]; rfl)
      have hahead : Indistinct (x.run (s.ahead depth) w)
          (((), (x.run s v).1.2.ahead depth), (x.run s v).2) := by
        have hdeaf := x.deaf_run.indistinct s hw
        have hstep := x.run_ahead hx s depth w
        rw [hdeaf.result] at hstep
        exact ⟨hstep.result, hstep.silent.trans hdeaf.silent⟩
      rcases hstep : x.run (s.ahead depth) w with ⟨⟨⟨⟩, s₁⟩, w₁⟩
      rw [hstep] at hahead
      obtain rfl : s₁ = (x.run s v).1.2.ahead depth := congrArg Prod.snd hahead.result
      rw [hothers, Act.forM_cons_of_eq hstep, Act.forM_cons_of_eq (b := x) rfl]
      exact ih (h.run hx v) hahead.silent

variable [Deserializer D]

/-- To restore is to subscribe first, unless that was done. -/
theorem Waiting.restore_eq (h : Waiting s c) (hd : s.adapter.deserializer.isSome = true)
    (w : Shared) :
    restore s w =
      restore (s.ahead (s.depth w))
        (w.withNotices (w.notices.push (.subscribing s.topic (s.depth w)))) := by
  have hsome : s.read.deserializer.isNone = false := by
    rw [← Option.not_isSome, show s.read.deserializer.isSome = true from hd]
    rfl
  have hahead : (s.ahead (s.depth w)).read.deserializer.isNone = false := hsome
  rw [restore, Try.bind_of_ok (Try.get_apply s w), Try.bind_of_ok (Try.get_apply (s.ahead _) _),
    hsome, hahead, if_neg Bool.false_ne_true, if_neg Bool.false_ne_true]
  dsimp only
  rw [Try.bind_of_ok (h.subscribe_apply w), Try.bind_of_ok (h.subscribe_ahead _ _)]
  rfl

/-- To subscribe, let changes happen, and restore. -/
def early (changes : List (Change D)) :
    Operation (Checkpointer F Producer Consumer D) Replay.Summary := do
  subscribe
  (changes.forM Change.run : Act (Checkpointer F Producer Consumer D) Unit)
  restore

/-- To restore what is read back to a given depth. -/
def restoreAt (depth : Nat) : Operation (Checkpointer F Producer Consumer D) Replay.Summary := do
  let s ← get
  onRead (ReadPath.subscribe s.topic depth)
  restore

/-- A checkpointer that subscribes early restores as if it had subscribed in the end, when all else
had happened, though to the depth that its cache had when it did subscribe.  If its cache is as deep
in the end, it restores as if it had not subscribed early.  The same is answered, and the same is
left of the checkpointer, its deserializer, the caches and the broker; only the notices differ. -/
theorem restored_as_if_subscribed_late [Deserializer.IsDeaf D] (h : Waiting s c)
    (changes : List (Change D)) (w : Shared)
    (hd : ((others changes).forM Change.run s w).1.2.adapter.deserializer.isSome = true) :
    let x := (others changes).forM Change.run s w
    Indistinct (early changes s w) (restoreAt (s.depth w) x.1.2 x.2) ∧
      (x.1.2.depth x.2 = s.depth w → Indistinct (early changes s w) (restore x.1.2 x.2)) := by
  intro x
  let w₁ := w.withNotices (w.notices.push (.subscribing s.topic (s.depth w)))
  obtain ⟨hx, hahead⟩ := h.forM_run changes (s.depth w) (w := w₁) (v := w) rfl
  rcases hrun : changes.forM Change.run (s.ahead (s.depth w)) w₁ with ⟨⟨⟨⟩, s₂⟩, w₂⟩
  rw [hrun] at hahead
  obtain rfl : s₂ = x.1.2.ahead (s.depth w) := congrArg Prod.snd hahead.result
  have hearly : early changes s w = restore (x.1.2.ahead (s.depth w)) w₂ :=
    (Try.bind_of_ok (h.subscribe_apply w)).trans (Try.bind_of_ok (Try.liftAct_of_eq hrun))
  have hlate : restoreAt (s.depth w) x.1.2 x.2 = restore (x.1.2.ahead (s.depth w))
      (x.2.withNotices (x.2.notices.push (.subscribing x.1.2.topic (s.depth w)))) :=
    (Try.bind_of_ok (Try.get_apply x.1.2 x.2)).trans (Try.bind_of_ok (hx.join_apply _ _))
  rw [hearly, hlate]
  refine ⟨deaf_restore.indistinct _ hahead.silent, fun hdepth => ?_⟩
  rw [hx.restore_eq hd, hdepth]
  exact deaf_restore.indistinct _ hahead.silent

/-! ## Two caches -/

/-- Settings for one topic. -/
def oneTopic : Settings := { (default : Settings) with topic := "t", retryCount := 1 }

/-- A cache for one position, and one for any number of them. -/
def twoCaches : Shared :=
  { (default : Shared) with caches := ⟨[.new 1, .new 0]⟩, counters := ⟨[0]⟩, losses := ⟨[{}]⟩ }

/-- Positions are loaded into the second cache, whichever mirrors what is published. -/
def loading (cache : Nat) : Adapter (Transcribed Loader) where
  cache := some cache
  deserializer := some { deserializer := { cache := 1, counter := 0 } }

/-- A checkpointer that mirrors in the first cache. -/
def initialized : Checkpointer Factory Producer Consumer (Transcribed Loader) where
  settings := oneTopic
  factory := {}
  phase := .initialized
  write := { writer := ⟨"t", 0⟩, producer := some {}, cache := (loading 0).cache }
  read := { consumer := some {}, deserializer := (loading 0).deserializer }

theorem waiting_initialized : Waiting initialized {} := ⟨rfl, rfl, rfl, rfl⟩

/-- Two positions are published, and the adapter is set. -/
def twoPublished (a : Adapter (Transcribed Loader)) : List (Change (Transcribed Loader)) :=
  [.publish ⟨"a", 1⟩, .subscribe, .publish ⟨"b", 2⟩, .setPollTimeout 5, .setAdapter a]

/-- With a cache of the same depth, only the last position is read back, early or not. -/
theorem restored_as_if_subscribed_late_of_same_depth :
    let changes := twoPublished (loading 0)
    let x := (others changes).forM Change.run initialized twoCaches
    Indistinct (early changes initialized twoCaches) (restore x.1.2 x.2) ∧
      (early changes initialized twoCaches).1.1 = .ok ⟨1, 1, false⟩ := by
  obtain ⟨-, hsame⟩ := restored_as_if_subscribed_late waiting_initialized
    (twoPublished (loading 0)) twoCaches (by decide +kernel)
  exact ⟨hsame (by decide +kernel), by decide +kernel⟩

/-- With a cache that is deeper in the end, the checkpointer that has subscribed before reads back
less. -/
theorem restored_less_of_deeper :
    let changes := twoPublished (loading 1)
    let x := (others changes).forM Change.run initialized twoCaches
    (initialized.isInitialized = true ∧ initialized.isStopped = false ∧
      initialized.isSubscribed = false ∧ x.1.2.adapter.deserializer.isSome = true) ∧
    ((early changes initialized twoCaches).1.1 = .ok ⟨1, 1, false⟩ ∧
      ((early changes initialized twoCaches).2.caches.get 1).entries = [("b", 2)]) ∧
    (restore x.1.2 x.2).1.1 = .ok ⟨1, 2, false⟩ ∧
    ((restore x.1.2 x.2).2.caches.get 1).entries = [("a", 1), ("b", 2)] := by
  decide +kernel

end Early

end PositionLog
