import PositionLog.Proofs.Checkpointer.Steps
import PositionLog.Proofs.Replay

/-!
# What a checkpointer reads back

A checkpointer that was initialized and has neither stopped nor subscribed reads back all records
of its topic from as far back as its cache is deep, whatever its deserializer does with them.
-/

namespace PositionLog

open Broker (Consumer)
open Replay (Keeps Playback)

/-- A read path that has joined its topic. -/
def ReadPath.joined {C D : Type} (c : C) (d : D) : ReadPath C D :=
  { consumer := some c, subscribed := true, deserializer := some d }

/-- A read path that has not joined its topic. -/
def ReadPath.apart {C D : Type} (c : C) (d : D) : ReadPath C D :=
  { consumer := some c, deserializer := some d }

/-- An open consumer can always join the topic. -/
theorem ReadPath.subscribe_of_opened {D : Type} {c : Consumer} (hopen : c.closed = false)
    (d : Option D) (topic : String) (depth : Nat) (w : Shared) :
    subscribe topic depth ⟨some c, false, d⟩ w =
      ((.ok (), ⟨some (c.joined topic depth), true, d⟩),
        w.withNotices (w.notices.push (.subscribing topic depth))) := by
  have hjoin : (LogConsumer.subscribe topic (Broker.rewinding depth) c : StateM Shared _)
      (w.withNotices (w.notices.push (.subscribing topic depth))) =
        ((.ok (), c.joined topic depth),
          w.withNotices (w.notices.push (.subscribing topic depth))) :=
    Consumer.subscribe_apply hopen _ topic depth
  exact subscribe_of_answer hjoin

namespace Checkpointer

variable {F P D : Type}

/-- The checkpointer can read back with this consumer and this deserializer. -/
structure CanRestore (s : Checkpointer F P Consumer D) (c : Consumer) (d : D) : Prop where
  not_stopped : s.phase ≠ .stopped
  read : s.read = .apart c d
  opened : c.closed = false
  stalledPolls_lt : c.stalledPolls < s.settings.retryCount
  maxPollRecords_pos : 0 < c.maxPollRecords

/-- How far back a checkpointer reads. -/
def depth (s : Checkpointer F P Consumer D) (w : Shared) : Nat := (s.replayDepth w).1

/-- What was told when the topic is joined and about to be read. -/
def noticesBefore (s : Checkpointer F P Consumer D) (w : Shared) : Log Notice :=
  (w.notices.push (.subscribing s.topic (s.depth w))).push (.loading s.topic)

section Steps

variable {s : Checkpointer F P Consumer D} {c : Consumer} {d : D}

theorem replayDepth_apply (s : Checkpointer F P Consumer D) (w : Shared) :
    s.replayDepth w = (s.depth w, w) := replayDepth_eq s w

/-- A checkpointer with a cache reads back as far as the cache is deep. -/
theorem depth_of_cache {j : Nat} (h : s.write.cache = some j) (w : Shared) :
    s.depth w = (w.caches.get j).replayDepth := by
  unfold depth replayDepth
  rw [h]
  rfl

theorem readPath_subscribe_apply (hopen : c.closed = false) (d : D) (topic : String)
    (depth : Nat) (w : Shared) :
    ReadPath.subscribe topic depth (.apart c d) w =
      ((.ok (), .joined (c.joined topic depth) d),
        w.withNotices (w.notices.push (.subscribing topic depth))) :=
  ReadPath.subscribe_of_opened hopen (some d) topic depth w

/-- The checkpointer joins its topic. -/
theorem subscribe_apply (h : s.CanRestore c d) (w : Shared) :
    subscribe s w = ((.ok (), { s with read := .joined (c.joined s.topic (s.depth w)) d }),
      w.withNotices (w.notices.push (.subscribing s.topic (s.depth w)))) := by
  have hstopped : s.isStopped = false := decide_eq_false h.not_stopped
  simp only [subscribe, Try.bind_apply, Try.get_apply, Try.ite_apply, hstopped, Try.lift_apply,
    replayDepth_apply]
  rw [if_neg Bool.false_ne_true]
  simp only [onRead, Try.on_apply, h.read, readPath_subscribe_apply h.opened]

end Steps

section Replay

variable [LogProducer P] [Deserializer D] {s : Checkpointer F P Consumer D} {c : Consumer} {d : D}
  {w w' : Shared} {sum : Replay.Summary} {q : Playback Consumer D P}

/-- To restore is to replay, between joining the topic and leaving it. -/
theorem restore_apply (h : s.CanRestore c d) {positions : Option (Slots Nat)}
    (hrun : Playback.run s.settings.pollTimeout s.settings.retryCount s.settings.halt
      { consumer := c.joined s.topic (s.depth w), deserializer := d, write := some s.write }
      (w.withNotices (s.noticesBefore w)) = ((.ok sum, q), w'))
    (hopen : q.consumer.closed = false)
    (hs : q.consumer.subscription = some ⟨s.topic, Broker.rewinding (s.depth w), positions⟩) :
    restore s w =
      ((.ok sum, { s with
        write := q.write.getD s.write
        read := .apart q.consumer.left q.deserializer }),
        w'.withNotices (w'.notices.push (.loaded s.topic sum.batches sum.records))) := by
  have hd : s.read.deserializer = some d := by rw [h.read]; rfl
  have hleave : (LogConsumer.unsubscribe q.consumer : StateM Shared _) w' =
      ((.ok (), q.consumer.left), w') := Consumer.unsubscribe_apply hopen w' hs
  have hrestore := restore_of_ok hd (subscribe_apply h w) rfl hrun hleave
  exact hrestore

/-- What a checkpointer reads back are the last records of each partition, up to its end. -/
theorem restore_spec (h : s.CanRestore c d) (w : Shared)
    {J : List Record → Intake D P → Shared → Prop}
    (hkeeps : Keeps s.topic (w.broker.startOf s.topic (s.depth w)) J)
    (hJ : J [] { deserializer := d, write := some s.write } w) :
    ∃ k rs i c' w',
      restore s w =
        ((.ok ⟨k, rs.length, false⟩, { s with
          write := i.write.getD s.write
          read := .apart c' i.deserializer }), w') ∧
      J rs i w' ∧ w.broker.Extends w'.broker s.topic ∧
      w'.broker.ReadAll s.topic (w.broker.startOf s.topic (s.depth w)) rs ∧
      c'.polls = c.polls + k + s.settings.retryCount + if k = 0 then 0 else c.stalledPolls := by
  obtain ⟨k, rs, i, positions, w', hrun, hJ', hext, hall⟩ :=
    Replay.run_spec s.settings.pollTimeout s.settings.halt
      (s := { consumer := c.joined s.topic (s.depth w), deserializer := d, write := some s.write })
      (w := w.withNotices (s.noticesBefore w)) h.opened rfl h.stalledPolls_lt h.maxPollRecords_pos
      hkeeps (hkeeps.told _ hJ)
  exact ⟨k, rs, i, _, _, restore_apply h hrun h.opened rfl, hkeeps.told _ hJ', hext, hall, rfl⟩

end Replay

end Checkpointer

end PositionLog
