import PositionLog.Broker.Producer
import PositionLog.Proofs.Broker.Append
import PositionLog.Proofs.Checkpointer.Steps
import PositionLog.Proofs.Recency

/-!
# What meets a position

What becomes of a position that is to be published is decided before anything is done: by the
checkpointer, which may be stopped or without a producer; by the producer, which may be closed; and
by the broker, which may refuse it for two reasons or take it.  The first of these that objects
decides what is answered, what is lost, and whether the cache hears of it.
-/

namespace PositionLog

open Broker (Producer)

/-- What a position to be published meets. -/
inductive Reception where
  | stopped
  | uninitialized
  | closed
  | queueFull
  | unavailable
  | taken
deriving DecidableEq, Repr

namespace Reception

/-- What a producer answers.  Only that it is closed is an error to a writer. -/
def answer : Reception → Except BrokerError Unit
  | closed => .error .closed
  | _ => .ok ()

/-- What the publisher is told. -/
def result : Reception → Except Error Unit
  | stopped => .error .stopped
  | uninitialized => .error .notInitialized
  | closed => .error (.broker .closed)
  | _ => .ok ()

/-- What the writer of a topic loses under a key. -/
def loss? (topic : String) (key : Bytes) : Reception → Option Loss
  | queueFull => some ⟨key, none, .unavailable "local queue is full"⟩
  | unavailable => some ⟨key, some { topic }, .unavailable "broker is not reachable"⟩
  | _ => none

/-- Whether the cache hears of it. -/
def mirrored : Reception → Bool
  | stopped | uninitialized => false
  | _ => true

/-- Two answers tell that the cache did not hear of it. -/
theorem mirrored_iff (r : Reception) :
    r.mirrored ↔ r.result ≠ .error .stopped ∧ r.result ≠ .error .notInitialized := by
  cases r <;> simp [mirrored, result]

end Reception

/-- What a producer and the broker do about a record. -/
def Broker.Producer.reception (producer : Producer) (b : Broker) : Reception :=
  if producer.closed then .closed
  else if b.queueFull then .queueFull
  else if b.unavailable then .unavailable
  else .taken

def WritePath.reception (s : WritePath Producer) (b : Broker) : Reception :=
  match s.producer with
  | none => .uninitialized
  | some producer => producer.reception b

def Checkpointer.reception {F C D : Type} (s : Checkpointer F Producer C D) (b : Broker) :
    Reception :=
  if s.isStopped then .stopped else s.write.reception b

/-- The caches after a position was added to one of them. -/
def Pool.mirror (caches : Pool RecencyCache) (cache : Option Nat) (p : Position) :
    Pool RecencyCache :=
  match cache with
  | none => caches
  | some i => caches.modify i (·.add p.stream p.offset)

theorem Pool.size_mirror (caches : Pool RecencyCache) (cache : Option Nat) (p : Position) :
    (caches.mirror cache p).size = caches.size := by
  unfold mirror
  cases cache with
  | none => rfl
  | some i => exact size_modify caches i _

theorem Pool.get_mirror {caches : Pool RecencyCache} (cache : Option Nat) (p : Position) {j : Nat}
    (hj : j < caches.size) :
    (caches.mirror cache p).get j =
      if cache = some j then (caches.get j).addAll [p.entry] else caches.get j := by
  unfold mirror
  cases cache with
  | none => rfl
  | some i =>
    by_cases h : i = j
    · subst h
      rw [if_pos rfl]
      exact get_modify_self caches hj _
    · rw [if_neg fun he => h (Option.some.inj he)]
      exact get_modify_of_ne caches (Ne.symm h) _

/-! ## What is changed -/

/-- What is shared after a position was received by a writer that is mirrored in a cache. -/
def Shared.received (w : Shared) (r : Reception) (x : Writer) (cache : Option Nat) (p : Position)
    (n : Log Notice) : Shared :=
  { w with
    broker := if r = .taken then w.broker.push x.topic p.toEntry else w.broker
    caches := if r.mirrored then w.caches.mirror cache p else w.caches
    losses := (r.loss? x.topic p.key).elim w.losses fun l => w.losses.modify x.losses (·.push l)
    notices := n }

namespace Shared

variable (w : Shared) (r : Reception) (x : Writer) (cache : Option Nat) (p : Position)
  (n : Log Notice)

theorem toList_losses_received (hx : x.losses < w.losses.size) (j : Nat) :
    ((w.received r x cache p n).losses.get j).toList =
      (w.losses.get j).toList ++ if x.losses = j then (r.loss? x.topic p.key).toList else [] := by
  unfold received
  cases r.loss? x.topic p.key with
  | none =>
    rw [Option.toList_none, ite_self, List.append_nil]
    rfl
  | some l => exact Pool.toList_get_modify_push w.losses hx l j

theorem get_caches_received {j : Nat} (hj : j < w.caches.size) :
    (w.received r x cache p n).caches.get j =
      if cache = some j ∧ r.mirrored then (w.caches.get j).addAll [p.entry]
      else w.caches.get j := by
  change (if r.mirrored then w.caches.mirror cache p else w.caches).get j = _
  cases r.mirrored with
  | false => exact (if_neg fun h : cache = some j ∧ false = true => nomatch h.2).symm
  | true =>
    rw [if_pos rfl, if_congr (and_iff_left rfl) rfl rfl]
    exact Pool.get_mirror cache p hj

@[simp] theorem size_losses_received :
    (w.received r x cache p n).losses.size = w.losses.size := by
  unfold received
  cases r.loss? x.topic p.key with
  | none => rfl
  | some l => exact Pool.size_modify ..

@[simp] theorem size_caches_received :
    (w.received r x cache p n).caches.size = w.caches.size := by
  unfold received
  cases r.mirrored with
  | false => rfl
  | true => exact Pool.size_mirror ..

end Shared

theorem mirror_apply {P : Type} (s : WritePath P) (p : Position) (w : Shared) :
    s.mirror p w = ((), { w with caches := w.caches.mirror s.cache p }) := by
  unfold WritePath.mirror Pool.mirror
  cases s.cache <;> rfl

section Send

variable {producer : Producer} (hopen : producer.closed = false) (topic : String) (e : Entry)
  (t : Ticket) (w : Shared)

theorem report_of_available (hun : w.broker.unavailable = false) :
    Producer.report topic e w =
      (.ok ⟨topic, some (w.broker.route e.key),
        some (w.broker.entries topic (w.broker.route e.key)).size⟩,
        { w with broker := w.broker.push topic e }) := by
  simp only [Producer.report, Shared.modifyGet_apply, Broker.append_eq, hun]
  rfl

theorem report_of_unavailable (hun : w.broker.unavailable = true) :
    Producer.report topic e w =
      (.error ⟨some { topic }, .unavailable "broker is not reachable"⟩, w) := by
  simp only [Producer.report, Shared.modifyGet_apply, Broker.append_eq, hun]
  rfl

/-- A producer that is closed takes nothing, and says so. -/
theorem send_of_closed (hclosed : producer.closed = true) :
    Producer.send topic e.key e.value producer w = ((.error .closed, producer), w) := by
  rw [Producer.send, Try.bind_of_ok (Try.get_apply producer w), hclosed]
  rfl

theorem transmit_of_closed (hclosed : producer.closed = true) :
    (LogProducer.transmit topic e.key e.value t : Request Producer Unit) producer w =
      ((.error .closed, producer), w) := by
  have hsend : (LogProducer.send topic e.key e.value t : Request Producer Receipt) producer w =
      ((.error .closed, producer), w) := send_of_closed topic e w hclosed
  rw [LogProducer.transmit, Try.bind_apply, hsend]

include hopen

/-- A producer whose queue is full takes nothing. -/
theorem send_of_queueFull (hfull : w.broker.queueFull = true) :
    Producer.send topic e.key e.value producer w =
      ((.error (.unavailable "local queue is full"), producer), w) := by
  rw [Producer.send, Try.bind_of_ok (Try.get_apply producer w), hopen, if_neg Bool.false_ne_true]
  apply (Try.bind_of_ok (Try.getThe_apply producer w)).trans
  rw [hfull]
  rfl

/-- What a producer takes is reported on at once. -/
theorem send_of_not_queueFull (hfull : w.broker.queueFull = false) :
    Producer.send topic e.key e.value producer w =
      ((.ok (.settled (Producer.report topic e w).1), producer),
        (Producer.report topic e w).2) := by
  rw [Producer.send, Try.bind_of_ok (Try.get_apply producer w), hopen, if_neg Bool.false_ne_true]
  apply (Try.bind_of_ok (Try.getThe_apply producer w)).trans
  rw [hfull]
  rfl

theorem transmit_of_queueFull (hfull : w.broker.queueFull = true) :
    (LogProducer.transmit topic e.key e.value t : Request Producer Unit) producer w =
      ((.error (.unavailable "local queue is full"), producer), w) := by
  have hsend : (LogProducer.send topic e.key e.value t : Request Producer Receipt) producer w =
      ((.error (.unavailable "local queue is full"), producer), w) :=
    send_of_queueFull hopen topic e w hfull
  rw [LogProducer.transmit, Try.bind_apply, hsend]

theorem transmit_of_not_queueFull (hfull : w.broker.queueFull = false) :
    (LogProducer.transmit topic e.key e.value t : Request Producer Unit) producer w =
      ((.ok (), producer), (Shared.settle t (Producer.report topic e w).1
        (Producer.report topic e w).2).2) := by
  have hsend : (LogProducer.send topic e.key e.value t : Request Producer Receipt) producer w =
      ((.ok (.settled (Producer.report topic e w).1), producer),
        (Producer.report topic e w).2) := send_of_not_queueFull hopen topic e w hfull
  exact Try.bind_of_ok hsend

end Send

/-! ## What is done -/

section Receive

variable (p : Position) (w : Shared)

/-- A writer passes on that the producer is closed, and keeps what else goes wrong. -/
theorem append_apply (x : Writer) (producer : Producer) :
    ∃ n, (x.append p.key p.value : Request Producer Unit) producer w =
      (((producer.reception w.broker).answer, producer),
        w.received (producer.reception w.broker) x none p n) := by
  rw [Writer.append, Producer.reception]
  cases hopen : producer.closed with
  | true =>
    have htransmit := transmit_of_closed x.topic p.toEntry (.writer x.losses p.key) w hopen
    exact ⟨_, (Try.bind_of_ok (Try.outcome_of_eq htransmit)).trans rfl⟩
  | false =>
    cases hfull : w.broker.queueFull with
    | true =>
      have htransmit :=
        transmit_of_queueFull hopen x.topic p.toEntry (.writer x.losses p.key) w hfull
      exact ⟨_, (Try.bind_of_ok (Try.outcome_of_eq htransmit)).trans rfl⟩
    | false =>
      have htransmit :=
        transmit_of_not_queueFull hopen x.topic p.toEntry (.writer x.losses p.key) w hfull
      cases hun : w.broker.unavailable with
      | true =>
        rw [report_of_unavailable x.topic p.toEntry w hun] at htransmit
        exact ⟨_, (Try.bind_of_ok (Try.outcome_of_eq htransmit)).trans rfl⟩
      | false =>
        rw [report_of_available x.topic p.toEntry w hun] at htransmit
        exact ⟨_, (Try.bind_of_ok (Try.outcome_of_eq htransmit)).trans rfl⟩

/-- What a producer does about a record is one of four things. -/
theorem reception_cases (producer : Producer) (b : Broker) :
    producer.reception b = .closed ∨ producer.reception b = .queueFull ∨
      producer.reception b = .unavailable ∨ producer.reception b = .taken := by
  unfold Producer.reception
  cases producer.closed <;> cases b.queueFull <;> cases b.unavailable <;> simp

/-- A position is published as it is received. -/
theorem WritePath.publish_received (s : WritePath Producer) :
    ∃ n, publish p s w = (((s.reception w.broker).result, s),
      w.received (s.reception w.broker) s.writer s.cache p n) := by
  obtain ⟨writer, producer, cache⟩ := s
  cases producer with
  | none => exact ⟨w.notices, rfl⟩
  | some producer =>
    obtain ⟨n, happend⟩ := append_apply p
      (w.withNotices (w.notices.push (.updating writer.topic p.key.length p.value.length)))
      writer producer
    refine ⟨n, ?_⟩
    apply (publish_of_answer (s := ⟨writer, some producer, cache⟩) rfl happend).trans
    rw [mirror_apply, Shared.broker_withNotices]
    change _ = (((producer.reception w.broker).result, _),
      w.received (producer.reception w.broker) _ _ p n)
    rcases reception_cases producer w.broker with h | h | h | h
    all_goals
      rw [h]
      rfl

theorem Checkpointer.publish_received {F C D : Type} (s : Checkpointer F Producer C D) :
    ∃ n, publish p s w = (((s.reception w.broker).result, s),
      w.received (s.reception w.broker) s.write.writer s.write.cache p n) := by
  unfold reception
  cases hstopped : s.isStopped with
  | true =>
    refine ⟨w.notices, ?_⟩
    rw [publish, Try.bind_of_ok (Try.get_apply s w), hstopped]
    rfl
  | false =>
    obtain ⟨n, hpublish⟩ := WritePath.publish_received p w s.write
    refine ⟨n, ?_⟩
    rw [publish, Try.bind_of_ok (Try.get_apply s w), hstopped, if_neg Bool.false_ne_true]
    apply (Try.on_apply _ _ _ s w).trans
    rw [hpublish]
    rfl

end Receive

end PositionLog
