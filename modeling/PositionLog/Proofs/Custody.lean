import PositionLog.Proofs.Checkpointer.Reception
import PositionLog.Proofs.Kafka
import PositionLog.Session.Clients

/-!
# Who keeps a ticket

The ticket of a record that was sent stays with the producer until it is dropped, is handed to
somebody who can report on the record at any time, or is thrown away.  No client tells a writer of a
loss by itself.
-/

namespace PositionLog

/-- Who keeps the ticket of a record that was sent, if anybody does. -/
inductive Custody where
  /-- The producer, until it is dropped. -/
  | producer
  /-- Somebody who can report on the record at any time. -/
  | elsewhere
  | nobody
deriving DecidableEq, Repr

namespace Custody

def held (t : Ticket) : Custody → List Ticket
  | producer => [t]
  | elsewhere | nobody => []

def pending (t : Ticket) : Custody → List Ticket
  | elsewhere => [t]
  | producer | nobody => []

end Custody

namespace LogProducer

/-- The tickets that a producer keeps. -/
def tickets {P : Type} [LogProducer P] (producer : P) : List Ticket :=
  (abandoned producer).map Prod.fst

/-- A producer that never tells a writer of a loss by itself.  It may keep the ticket of a record
that is sent, hand it to somebody or throw it away, and it never gives up a ticket that it kept. -/
class Custodian (P : Type) [LogProducer P] : Prop where
  send (topic : String) (key value : Bytes) (t : Ticket) (producer : P) (w : Shared) :
    ∃ c : Custody,
      tickets ((send topic key value t : Request P Receipt) producer w).1.2 =
        tickets producer ++ c.held t ∧
      ((send topic key value t : Request P Receipt) producer w).2.pending =
        w.pending ++ c.pending t ∧
      ((send topic key value t : Request P Receipt) producer w).2.losses = w.losses
  close (producer : P) (w : Shared) :
    tickets ((close : Request P Unit) producer w).1.2 = tickets producer ∧
      ((close : Request P Unit) producer w).2.pending = w.pending ∧
      ((close : Request P Unit) producer w).2.losses = w.losses

end LogProducer

/-- A consumer that can be closed without anything being told about records sent. -/
class LogConsumer.Aloof (C : Type) [LogConsumer C] : Prop where
  close (consumer : C) (w : Shared) :
    ((close : Request C Unit) consumer w).2.pending = w.pending ∧
      ((close : Request C Unit) consumer w).2.losses = w.losses

/-- What is sent to the broker in memory is reported on at once. -/
instance : LogProducer.Custodian Broker.Producer where
  send topic key value t producer w := by
    refine ⟨.nobody, rfl, ?_⟩
    change (Broker.Producer.send topic key value producer w).2.pending = w.pending ++ [] ∧
      (Broker.Producer.send topic key value producer w).2.losses = w.losses
    rw [List.append_nil]
    cases hclosed : producer.closed with
    | true =>
      rw [send_of_closed topic ⟨key, value⟩ w hclosed]
      exact ⟨rfl, rfl⟩
    | false =>
      cases hfull : w.broker.queueFull with
      | true =>
        rw [send_of_queueFull hclosed topic ⟨key, value⟩ w hfull]
        exact ⟨rfl, rfl⟩
      | false =>
        rw [send_of_not_queueFull hclosed topic ⟨key, value⟩ w hfull]
        cases hun : w.broker.unavailable with
        | true =>
          rw [report_of_unavailable topic ⟨key, value⟩ w hun]
          exact ⟨rfl, rfl⟩
        | false =>
          rw [report_of_available topic ⟨key, value⟩ w hun]
          exact ⟨rfl, rfl⟩
  close producer w := by
    rcases producer with ⟨_ | _, _ | _⟩ <;> exact ⟨rfl, rfl, rfl⟩

/-- A record is refused, or it is queued with its ticket. -/
theorem Offline.Queue.send_cases (topic : String) (key value : Bytes) (t : Ticket) (q : Queue)
    (w : Shared) :
    (∃ text, send topic key value t q w = ((.error text, q), w)) ∨
      send topic key value t q w =
        ((.ok (), { q with records := q.records.push ⟨t, topic⟩ }), w) := by
  rw [send, Try.bind_of_ok (Try.get_apply q w)]
  by_cases hlong : q.maxBytes < key.length + value.length
  · rw [if_pos hlong]
    exact .inl ⟨_, rfl⟩
  · rw [if_neg hlong]
    cases q.isFull with
    | true => exact .inl ⟨_, rfl⟩
    | false => exact .inr rfl

/-! ### Libraries -/

namespace Kafka

/-- The tickets that a library keeps. -/
def ProducerLibrary.tickets {L : Type} [ProducerLibrary L] (l : L) : List Ticket :=
  (abandoned l).map Prod.fst

/-- A library that does nothing to what is shared but hand out tickets: it may keep the ticket of a
record that it queues, hand it to somebody or throw it away, and it never gives up one that it
kept. -/
class ProducerLibrary.Lawful (L : Type) [ProducerLibrary L] : Prop where
  send (topic : String) (key value : Bytes) (t : Ticket) (l : L) (w : Shared) :
    let x := (ProducerLibrary.send topic key value t : Try String L Unit) l w
    ∃ c : Custody, tickets x.1.2 = tickets l ++ c.held t ∧
      x.2 = { w with pending := w.pending ++ c.pending t }
  flush (timeout : Nat) (l : L) (w : Shared) :
    let x := (ProducerLibrary.flush timeout : Try String L Unit) l w
    tickets x.1.2 = tickets l ∧ x.2 = w

namespace Producer

variable {L : Type} [ProducerLibrary L] [ProducerLibrary.Lawful L] (producer : Producer L)
  (w : Shared)

omit [ProducerLibrary.Lawful L] in
theorem tickets_eq : LogProducer.tickets producer = ProducerLibrary.tickets producer.library :=
  List.map_map

theorem send_spec (topic : String) (key value : Bytes) (t : Ticket) :
    ∃ (c : Custody) (result : Except BrokerError Receipt) (l : L),
      send topic key value t producer w =
        ((result, { producer with library := l }),
          { w with pending := w.pending ++ c.pending t }) ∧
      ProducerLibrary.tickets l = ProducerLibrary.tickets producer.library ++ c.held t := by
  rcases producer.closed.eq_false_or_eq_true with hclosed | hopen
  · refine ⟨.nobody, .error .closed, producer.library, ?_, (List.append_nil _).symm⟩
    rw [send_of_closed hclosed, Custody.pending, List.append_nil]
  · obtain ⟨c, htickets, hw⟩ := ProducerLibrary.Lawful.send topic key value t producer.library w
    exact ⟨c, _, _, (send_of_opened hopen rfl).trans (congrArg (Prod.mk _) hw), htickets⟩

/-- Nothing is done to what is shared, but it may be told that the queue is flushed. -/
theorem close_spec :
    ∃ (result : Except BrokerError Unit) (l : L) (w' : Shared),
      close producer w = ((result, { producer with library := l, closed := true }), w') ∧
      (w' = w ∨ w' = (Shared.tell (.flushing (producer.flushTimeout / 1000000)) w).2) ∧
      ProducerLibrary.tickets l = ProducerLibrary.tickets producer.library := by
  rcases producer.closed.eq_false_or_eq_true with hclosed | hopen
  · refine ⟨.ok (), producer.library, w, ?_, .inl rfl, rfl⟩
    rw [close_of_closed hclosed, ← hclosed]
  · obtain ⟨htickets, hw⟩ := ProducerLibrary.Lawful.flush producer.flushTimeout producer.library
      (w.withNotices (w.notices.push (.flushing (producer.flushTimeout / 1000000))))
    exact ⟨_, _, _, close_of_opened hopen rfl, .inr hw, htickets⟩

end Producer

end Kafka

instance {L : Type} [Kafka.ProducerLibrary L] [Kafka.ProducerLibrary.Lawful L] :
    LogProducer.Custodian (Kafka.Producer L) where
  send topic key value t producer w := by
    obtain ⟨c, result, l, h, htickets⟩ := producer.send_spec w topic key value t
    have hsend : (LogProducer.send topic key value t : Request (Kafka.Producer L) Receipt) producer
        w = _ := h
    rw [hsend, Kafka.Producer.tickets_eq, Kafka.Producer.tickets_eq]
    exact ⟨c, htickets, rfl, rfl⟩
  close producer w := by
    obtain ⟨result, l, w', h, hw, htickets⟩ := producer.close_spec w
    have hclose : (LogProducer.close : Request (Kafka.Producer L) Unit) producer w = _ := h
    rw [hclose, Kafka.Producer.tickets_eq, Kafka.Producer.tickets_eq]
    rcases hw with rfl | rfl <;> exact ⟨htickets, rfl, rfl⟩

/-- A queue keeps the tickets of what is in it. -/
instance : Kafka.ProducerLibrary.Lawful Offline.Queue where
  send topic key value t q w := by
    have htickets (q : Offline.Queue) :
        Kafka.ProducerLibrary.tickets q = q.records.toList.map Offline.Queued.ticket := List.map_map
    have hsend : (Kafka.ProducerLibrary.send topic key value t : Try String Offline.Queue Unit) =
      Offline.Queue.send topic key value t := rfl
    rw [hsend]
    rcases Offline.Queue.send_cases topic key value t q w with ⟨text, h⟩ | h
    · rw [h]
      exact ⟨.nobody, (List.append_nil _).symm, by rw [Custody.pending, List.append_nil]⟩
    · rw [h]
      dsimp only
      rw [htickets, htickets, Log.toList_push, List.map_append]
      exact ⟨.producer, rfl, by rw [Custody.pending, List.append_nil]⟩
  flush timeout q w := by
    have hflush : ∃ result, Offline.Queue.flush q w = ((result, q), w) := by
      rw [Offline.Queue.flush, Try.bind_of_ok (Try.get_apply q w)]
      cases q.records.isEmpty <;> exact ⟨_, rfl⟩
    obtain ⟨result, h⟩ := hflush
    have hstep : (Kafka.ProducerLibrary.flush timeout : Try String Offline.Queue Unit) q w =
      ((result, q), w) := h
    rw [hstep]
    exact ⟨rfl, rfl⟩

/-! ### Other clients -/

instance : LogProducer.Custodian Scripted.Producer where
  send topic key value t producer w := by
    rcases producer with ⟨party, _ | ⟨answer | report | _ | _ | cause, answers⟩, closes⟩
    · exact ⟨.nobody, rfl, (List.append_nil _).symm, rfl⟩
    · exact ⟨.nobody, rfl, (List.append_nil _).symm, rfl⟩
    · exact ⟨.nobody, rfl, (List.append_nil _).symm, rfl⟩
    · exact ⟨.elsewhere, rfl, rfl, rfl⟩
    · exact ⟨.nobody, rfl, (List.append_nil _).symm, rfl⟩
    · exact ⟨.nobody, rfl, (List.append_nil _).symm, rfl⟩
  close producer w := by
    rcases producer with ⟨_, _, _ | ⟨_ | _, _⟩⟩ <;> exact ⟨rfl, rfl, rfl⟩

/-- So it is with all producers that a session can have. -/
instance : LogProducer.Custodian Session.AnyProducer where
  send topic key value t producer w := by
    cases producer with
    | memory p => exact LogProducer.Custodian.send topic key value t p w
    | scripted p => exact LogProducer.Custodian.send topic key value t p w
    | offline p => exact LogProducer.Custodian.send topic key value t p w
  close producer w := by
    cases producer with
    | memory p => exact LogProducer.Custodian.close p w
    | scripted p => exact LogProducer.Custodian.close p w
    | offline p => exact LogProducer.Custodian.close p w

instance : LogConsumer.Aloof Broker.Consumer where
  close consumer w := by
    rcases consumer with ⟨_, _ | _, _ | _, _, _, _, _⟩ <;> exact ⟨rfl, rfl⟩

instance {L : Type} [Kafka.ConsumerLibrary L] [Kafka.ConsumerLibrary.Lawful L] :
    LogConsumer.Aloof (Kafka.Consumer L) where
  close consumer w := by
    have hclose : ((LogConsumer.close : Request (Kafka.Consumer L) Unit) consumer w).2 = w :=
      Kafka.Consumer.close_snd w
    rw [hclose]
    exact ⟨rfl, rfl⟩

instance : LogConsumer.Aloof Scripted.Consumer where
  close consumer w := by
    rcases hcloses : consumer.closes with _ | ⟨_ | _, _⟩ <;>
      simp [LogConsumer.close, Scripted.Consumer.close, Scripted.answer, hcloses]

instance : LogConsumer.Aloof Session.AnyConsumer where
  close consumer w := by
    cases consumer with
    | memory c => exact LogConsumer.Aloof.close c w
    | scripted c => exact LogConsumer.Aloof.close c w
    | offline c => exact LogConsumer.Aloof.close c w

end PositionLog
