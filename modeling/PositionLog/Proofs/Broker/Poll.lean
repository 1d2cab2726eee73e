import PositionLog.Proofs.Broker.Assignment

/-!
# What a consumer does

A consumer that was assigned its partitions is described by its positions and by how often it was
and will be polled in vain.
-/

namespace PositionLog.Broker.Consumer

/-- The consumer while it reads a topic from these positions on. -/
def reading (c : Consumer) (s : Subscription) (positions : Slots Nat) (stalledPolls polls : Nat) :
    Consumer :=
  { c with subscription := some { s with positions := some positions }, stalledPolls, polls }

section Reading

variable (c : Consumer) (s : Subscription) (positions : Slots Nat) (stalledPolls polls : Nat)

@[simp] theorem subscription_reading :
    (c.reading s positions stalledPolls polls).subscription =
      some { s with positions := some positions } := rfl

@[simp] theorem closed_reading :
    (c.reading s positions stalledPolls polls).closed = c.closed := rfl

@[simp] theorem stalledPolls_reading :
    (c.reading s positions stalledPolls polls).stalledPolls = stalledPolls := rfl

@[simp] theorem maxPollRecords_reading :
    (c.reading s positions stalledPolls polls).maxPollRecords = c.maxPollRecords := rfl

@[simp] theorem polls_reading :
    (c.reading s positions stalledPolls polls).polls = polls := rfl

@[simp] theorem reading_reading (positions' : Slots Nat) (stalledPolls' polls' : Nat) :
    (c.reading s positions stalledPolls polls).reading { s with positions := some positions }
        positions' stalledPolls' polls' =
      c.reading s positions' stalledPolls' polls' := rfl

/-- Partitions are assigned only once. -/
theorem assign_some (w : Shared) :
    Subscription.assign { s with positions := some positions } w =
      (positions, w.withNotices w.notices) := rfl

end Reading

section Poll

variable {c : Consumer} {s : Subscription} {positions : Slots Nat} {w w' : Shared}
  (hopen : c.closed = false) (hs : c.subscription = some s) (ha : s.assign w = (positions, w'))
include hopen hs ha

/-- A stalled poll finds nothing. -/
theorem poll_of_stalled {k : Nat} (hk : c.stalledPolls = k + 1) :
    poll c w = ((.ok [], c.reading s positions k (c.polls + 1)), w') := by
  simp only [poll, Try.bind_apply, Try.get_apply, Try.ite_apply, hopen, hs]
  simp [ha, hk, hopen, reading]

/-- Any other poll takes unread records. -/
theorem poll_apply (hk : c.stalledPolls = 0) :
    poll c w = ((.ok (w'.broker.takeUnread s.topic c.maxPollRecords positions).1,
      c.reading s (w'.broker.takeUnread s.topic c.maxPollRecords positions).2 0 (c.polls + 1)),
      w') := by
  simp only [poll, Try.bind_apply, Try.get_apply, Try.ite_apply, hopen, hs]
  simp [ha, hk, hopen, reading]

/-- These are from the front of what is unread. -/
theorem poll_of_not_stalled (hk : c.stalledPolls = 0) :
    ∃ positions',
      poll c w = ((.ok ((w'.broker.unreadAll s.topic positions).take c.maxPollRecords),
        c.reading s positions' 0 (c.polls + 1)), w') ∧
      Moved positions ((w'.broker.unreadAll s.topic positions).take c.maxPollRecords) positions' ∧
      w'.broker.unreadAll s.topic positions' =
        (w'.broker.unreadAll s.topic positions).drop c.maxPollRecords := by
  obtain ⟨positions', htake, hmoved, hrest⟩ :=
    w'.broker.takeUnread_spec s.topic c.maxPollRecords positions
  refine ⟨positions', ?_, hmoved, hrest⟩
  rw [poll_apply hopen hs ha hk, htake]

end Poll

/-- A poll of a subscription finds the partitions at these positions, and reads them from there
unless it is stalled. -/
structure PollsFrom (c : Consumer) (s : Subscription) (w : Shared) (positions : Slots Nat)
    (w' : Shared) : Prop where
  stalled (k : Nat) : c.stalledPolls = k + 1 →
    poll c w = ((.ok [], c.reading s positions k (c.polls + 1)), w')
  reads : c.stalledPolls = 0 →
    let x := w.broker.takeUnread s.topic c.maxPollRecords positions
    poll c w = ((.ok x.1, c.reading s x.2 0 (c.polls + 1)), w')

/-- The partitions are where they were, or where the listener moves them. -/
theorem pollsFrom_settled {c : Consumer} {s : Subscription} (hopen : c.closed = false)
    (hs : c.subscription = some s) (w : Shared) :
    c.PollsFrom s w (s.settled w.broker) (s.assign w).2 := by
  obtain ⟨w', ha, hbroker⟩ := s.assign_apply w
  rw [ha]
  refine ⟨fun k hk => poll_of_stalled hopen hs ha hk, fun hk => ?_⟩
  have hpoll := poll_apply hopen hs ha hk
  rw [hbroker] at hpoll
  exact hpoll

/-! ## Joining and leaving a topic -/

/-- The consumer after it has joined a topic, to be read back to this depth. -/
def joined (c : Consumer) (topic : String) (depth : Nat) : Consumer :=
  { c with
    subscription := some { topic, listener := rewinding depth }
    subscribeCalls := c.subscribeCalls + 1 }

/-- The consumer after it has left its topic. -/
def left (c : Consumer) : Consumer := { c with subscription := none }

variable {c : Consumer} (hopen : c.closed = false) (w : Shared)
include hopen

theorem subscribe_apply (topic : String) (depth : Nat) :
    subscribe topic (rewinding depth) c w = ((.ok (), c.joined topic depth), w) := by
  simp [subscribe, hopen, joined]

/-- A listener that rewinds does nothing about partitions that are taken away. -/
theorem unsubscribe_apply {topic : String} {depth : Nat} {positions : Option (Slots Nat)}
    (hs : c.subscription = some ⟨topic, rewinding depth, positions⟩) :
    unsubscribe c w = ((.ok (), c.left), w) := by
  unfold rewinding at hs
  split at hs <;>
  · simp only [unsubscribe, Try.bind_apply, Try.get_apply, Try.ite_apply, left, hopen, hs]
    rfl

end PositionLog.Broker.Consumer
