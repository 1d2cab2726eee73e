import PositionLog.Proofs.Checkpointer.Reception

/-!
# What a published position changes

A position that the broker takes is added to the log; one that it refuses is a loss and leaves the
log as it was.  Either way it is added to the cache that mirrors what is published, and either way
the publisher is told that all went well.
-/

namespace PositionLog

open Broker (Producer)

namespace Broker

instance (b : Broker) : Decidable b.Accepts := inferInstanceAs (Decidable (_ ∧ _))

/-- The broker after a producer has sent it an entry. -/
def offer (b : Broker) (topic : String) (e : Entry) : Broker :=
  if b.Accepts then b.push topic e else b

end Broker

/-- What is shared after a position was published, and what was told and lost. -/
def Shared.published (w : Shared) (topic : String) (cache : Option Nat) (p : Position)
    (notices : Log Notice) (losses : Pool (Log Loss)) : Shared :=
  { w with
    broker := w.broker.offer topic p.toEntry
    caches := w.caches.mirror cache p
    notices, losses }

section Published

variable (w : Shared) (topic : String) (cache : Option Nat) (p : Position) (n : Log Notice)
  (l : Pool (Log Loss))

@[simp] theorem broker_published :
    (w.published topic cache p n l).broker = w.broker.offer topic p.toEntry := rfl

@[simp] theorem caches_published :
    (w.published topic cache p n l).caches = w.caches.mirror cache p := rfl

@[simp] theorem counters_published :
    (w.published topic cache p n l).counters = w.counters := rfl

end Published

/-- An open producer never makes the publisher an error, and what it sends is taken if the broker
accepts it. -/
theorem reception_of_open {producer : Producer} (hopen : producer.closed = false) (b : Broker) :
    (producer.reception b).result = .ok () ∧ (producer.reception b).mirrored = true ∧
      (producer.reception b = .taken ↔ b.Accepts) := by
  unfold Producer.reception
  rw [hopen, if_neg Bool.false_ne_true]
  cases hfull : b.queueFull <;> cases hun : b.unavailable <;>
    exact ⟨rfl, rfl, by simp [Broker.Accepts, hfull, hun]⟩

/-- A position is published, and nothing else is changed. -/
theorem WritePath.publish_apply {s : WritePath Producer} {producer : Producer}
    (hs : s.producer = some producer) (hopen : producer.closed = false) (p : Position)
    (w : Shared) :
    ∃ n l, publish p s w = ((.ok (), s), w.published s.writer.topic s.cache p n l) := by
  obtain ⟨n, hpublish⟩ := publish_received p w s
  have hreception : s.reception w.broker = producer.reception w.broker := by
    rw [reception, hs]
  obtain ⟨hok, hmirrored, htaken⟩ := reception_of_open hopen w.broker
  rw [hreception, hok, Shared.received, if_pos hmirrored, if_congr htaken rfl rfl] at hpublish
  exact ⟨n, _, hpublish⟩

/-! ## What was added to a topic -/

/-- What is shared before and after: these positions were added to the topic. -/
structure Grown (topic : String) (us : List Position) (w w' : Shared) : Prop where
  partitions : w'.broker.partitions = w.broker.partitions
  holds : ∀ ps, w.broker.Holds topic ps → w'.broker.Holds topic (ps ++ us)
  size : w'.caches.size = w.caches.size

theorem Grown.of_log_eq {topic : String} {w w' : Shared}
    (hpartitions : w'.broker.partitions = w.broker.partitions)
    (hlogs : w'.broker.logs = w.broker.logs) (hcaches : w'.caches = w.caches) :
    Grown topic [] w w' := by
  refine ⟨hpartitions, fun ps hps p hp => ?_, by rw [hcaches]⟩
  have hentries : w'.broker.entries topic p = w.broker.entries topic p := by
    rw [Store.entries, Store.entries, hlogs]
  rw [hentries, Broker.route_congr hpartitions, List.append_nil]
  exact hps p (hpartitions ▸ hp)

theorem Grown.trans {topic : String} {us vs : List Position} {w w' w'' : Shared}
    (h : Grown topic us w w') (h' : Grown topic vs w' w'') : Grown topic (us ++ vs) w w'' := by
  refine ⟨h'.partitions.trans h.partitions, fun ps hps => ?_, h'.size.trans h.size⟩
  rw [← List.append_assoc]
  exact h'.holds _ (h.holds ps hps)

/-- A position is added to the topic if the broker takes it. -/
theorem Grown.published (topic : String) (cache : Option Nat) (u : Position) (w : Shared)
    (n : Log Notice) (l : Pool (Log Loss)) :
    Grown topic (if w.broker.Accepts then [u] else []) w (w.published topic cache u n l) := by
  by_cases hacc : w.broker.Accepts
  · have hoffer : w.broker.offer topic u.toEntry = w.broker.push topic u.toEntry := if_pos hacc
    rw [if_pos hacc]
    refine ⟨?_, fun ps hps => ?_, w.caches.size_mirror cache u⟩
    · rw [broker_published, hoffer, Broker.partitions_push]
    · rw [broker_published, hoffer]
      exact hps.push u
  · have hoffer : w.broker.offer topic u.toEntry = w.broker := if_neg hacc
    rw [if_neg hacc]
    refine ⟨?_, fun ps hps => ?_, w.caches.size_mirror cache u⟩
    · rw [broker_published, hoffer]
    · rwa [broker_published, hoffer, List.append_nil]

/-- All these positions were taken, and mirrored in one cache if there is one. -/
structure Recorded (topic : String) (cache : Option Nat) (us : List Position) (w w' : Shared) :
    Prop extends Grown topic us w w' where
  accepts : w'.broker.Accepts
  get : ∀ j < w.caches.size, w'.caches.get j =
    if cache = some j then (w.caches.get j).addAll (us.map Position.entry) else w.caches.get j

theorem Recorded.published {topic : String} {cache : Option Nat} {u : Position} {w : Shared}
    (hacc : w.broker.Accepts) (n : Log Notice) (l : Pool (Log Loss)) :
    Recorded topic cache [u] w (w.published topic cache u n l) := by
  have hgrown := Grown.published topic cache u w n l
  rw [if_pos hacc] at hgrown
  refine { hgrown with accepts := ?_, get := fun j hj => Pool.get_mirror cache u hj }
  rw [broker_published, Broker.offer, if_pos hacc]
  exact hacc

theorem Recorded.trans {topic : String} {cache : Option Nat} {us vs : List Position}
    {w w' w'' : Shared} (h : Recorded topic cache us w w') (h' : Recorded topic cache vs w' w'') :
    Recorded topic cache (us ++ vs) w w'' := by
  refine { h.toGrown.trans h'.toGrown with accepts := h'.accepts, get := fun j hj => ?_ }
  rw [h'.get j (h.size ▸ hj), h.get j hj]
  split
  · rw [List.map_append, RecencyCache.addAll_append]
  · rfl

namespace Checkpointer

variable {F C D : Type}

/-- The checkpointer can publish: it was initialized and not stopped. -/
structure CanPublish (s : Checkpointer F Producer C D) : Prop where
  not_stopped : s.phase ≠ .stopped
  producer : ∃ producer, s.write.producer = some producer ∧ producer.closed = false
  writer : s.write.writer.topic = s.topic

theorem publish_apply {s : Checkpointer F Producer C D} (h : s.CanPublish) (p : Position)
    (w : Shared) :
    ∃ n l, publish p s w = ((.ok (), s), w.published s.topic s.write.cache p n l) := by
  obtain ⟨producer, hs, hopen⟩ := h.producer
  obtain ⟨n, l, hpublish⟩ := WritePath.publish_apply hs hopen p w
  have hstopped : s.isStopped = false := decide_eq_false h.not_stopped
  refine ⟨n, l, ?_⟩
  rw [publish, Try.bind_of_ok (Try.get_apply s w), hstopped, if_neg Bool.false_ne_true]
  apply (Try.on_apply _ _ _ s w).trans
  rw [hpublish, h.writer]

/-- A broker that takes what it is sent takes all positions, in the order given. -/
theorem forM_publish {s : Checkpointer F Producer C D} (h : s.CanPublish) (us : List Position)
    {w : Shared} (hacc : w.broker.Accepts) :
    ∃ w', us.forM publish s w = ((.ok (), s), w') ∧ Recorded s.topic s.write.cache us w w' := by
  induction us generalizing w with
  | nil =>
    exact ⟨w, rfl, .of_log_eq rfl rfl rfl, hacc, fun _ _ => (ite_self _).symm⟩
  | cons u us ih =>
    obtain ⟨n, l, hpublish⟩ := publish_apply h u w
    have hfirst : Recorded s.topic s.write.cache [u] w
        (w.published s.topic s.write.cache u n l) := .published hacc n l
    rcases ih hfirst.accepts with ⟨w', hrest, hrecorded⟩
    exact ⟨w', (Try.bind_of_ok hpublish).trans hrest, hfirst.trans hrecorded⟩

end Checkpointer

end PositionLog
