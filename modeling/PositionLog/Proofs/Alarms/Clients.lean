import PositionLog.Proofs.Alarms.Basic
import PositionLog.Proofs.Broker.Subscription
import PositionLog.Proofs.Writer
import PositionLog.Session.Clients

/-!
# What clients do behind the scenes

While a consumer is polled it may let its listener seek, and while a deserializer is given a record
it may publish.  What goes wrong then is known once it is known which calls they make.  All other
steps of clients give no alarm.
-/

namespace PositionLog

/-! ## Listeners -/

section Listener

variable {S : Type}

/-- A cursor that gives no alarm by itself. -/
structure Cursor.Quiet (c : Cursor S) : Prop where
  endOffset : ∀ p, (c.endOffset p).Quiet
  seek : ∀ p offset, (c.seek p offset).Quiet

/-- What goes wrong when one partition is rewound. -/
def Rewind.mishaps (r : Rewind) (c : Cursor S) (p : TopicPartition) (s : S) (w : Shared) :
    List Mishap :=
  match c.endOffset p s w with
  | ((.error cause, _), _) => [.endOffset p cause]
  | ((.ok end_, s'), w') =>
    match r.target end_ with
    | none => []
    | some start =>
      Mishap.ofAnswer (.seek p start)
        (c.seek p start s' (Shared.tell (.seeking p end_ start) w').2).1.1

/-- What goes wrong when several partitions are rewound, one after the other. -/
def Rewind.mishapsOfAll (r : Rewind) (c : Cursor S) :
    List TopicPartition → S → Shared → List Mishap
  | [], _, _ => []
  | p :: ps, s, w =>
    r.mishaps c p s w ++ r.mishapsOfAll c ps (r.move c p s w).1.2 (r.move c p s w).2

/-- What goes wrong when a listener is given partitions.  Only one that rewinds minds. -/
def Listener.mishaps (c : Cursor S) (ps : List TopicPartition) : Listener → S → Shared → List Mishap
  | rewind r => r.mishapsOfAll c ps
  | probe _ => fun _ _ => []

variable {c : Cursor S}

theorem Rewind.told_move (hc : c.Quiet) (r : Rewind) (p : TopicPartition) (s : S) (w : Shared) :
    w.Told (r.move c p s w).2 (r.mishaps c p s w) := by
  have hquiet := hc.endOffset p s w
  rcases hend : c.endOffset p s w with ⟨⟨cause | end_, s'⟩, w'⟩
  · rw [hend] at hquiet
    rw [mishaps, move, Act.bind_of_eq hend, hend]
    exact (Shared.Told.of_eq hquiet).trans (Shared.told_alarm rfl w')
  · rw [hend] at hquiet
    rw [mishaps, move, Act.bind_of_eq hend, hend]
    dsimp only
    cases r.target end_ with
    | none => exact (Shared.Told.of_eq hquiet).trans (Shared.told_quiet rfl w')
    | some start =>
      let w₁ := (Shared.tell (.seeking p end_ start) w').2
      have htold : w.Told w₁ [] :=
        (Shared.Told.of_eq hquiet).trans (Shared.told_quiet rfl w')
      have hquiet' := hc.seek p start s' w₁
      dsimp only
      rw [Act.bind_of_eq (Act.lift_of_eq (Shared.tell_eq _ w'))]
      rcases hseek : c.seek p start s' w₁ with ⟨⟨answer, s''⟩, w''⟩
      rw [hseek] at hquiet'
      have hsought := htold.trans (.of_eq hquiet')
      have hstep : c.seek p start s' (w'.withNotices (w'.notices.push (.seeking p end_ start))) =
        ((answer, s''), w'') := hseek
      rw [Act.bind_of_eq hstep]
      cases answer with
      | error cause => exact hsought.trans (Shared.told_alarm rfl w'')
      | ok _ => exact hsought

theorem CursorCommand.quiet_run (hc : c.Quiet) (q : CursorCommand) : (q.run c).Quiet := by
  cases q with
  | endOffset p => exact fun s w => hc.endOffset p s w
  | seek p offset => exact fun s w => hc.seek p offset s w

theorem Listener.told_assigned (hc : c.Quiet) (ps : List TopicPartition) (l : Listener) (s : S)
    (w : Shared) : w.Told (l.assigned c ps s w).2 (l.mishaps c ps s w) := by
  cases l with
  | rewind r =>
    change w.Told (ps.forM (r.move c) s w).2 (r.mishapsOfAll c ps s w)
    induction ps generalizing s w with
    | nil => exact .refl w
    | cons p ps ih => exact (r.told_move hc p s w).trans (ih _ _)
  | probe commands =>
    have hheard : w.Told (Shared.observe (.assigned ps) w).2 [] := .of_eq rfl
    have hall (w : Shared) : w.Told (commands.forM (·.run c) s w).2 [] := by
      induction commands generalizing s w with
      | nil => exact .refl w
      | cons q commands ih => exact (Shared.Told.of_eq (q.quiet_run hc s w)).trans (ih _ _)
    exact hheard.trans (hall _)

end Listener

/-- A listener is given partitions. -/
structure Hearing where
  State : Type
  cursor : Cursor State
  state : State
  listener : Listener
  partitions : List TopicPartition
  shared : Shared

def Hearing.mishaps (h : Hearing) : List Mishap :=
  h.listener.mishaps h.cursor h.partitions h.state h.shared

/-! ## Producers and factories -/

/-- A factory during whose steps no alarm is given. -/
class ClientFactory.Quiet (F : Type) {P C : Type} [ClientFactory F P C] : Prop where
  createProducer (properties : Properties) :
    (ClientFactory.createProducer properties : Request F P).run.Quiet
  createConsumer (properties : Properties) :
    (ClientFactory.createConsumer properties : Request F C).run.Quiet

instance : LogProducer.Quiet Broker.Producer where
  send topic key value _ producer w := by
    change (Broker.Producer.send topic key value producer w).2.alarms = w.alarms
    cases hclosed : producer.closed with
    | true => rw [send_of_closed topic ⟨key, value⟩ w hclosed]
    | false =>
      cases hfull : w.broker.queueFull with
      | true => rw [send_of_queueFull hclosed topic ⟨key, value⟩ w hfull]
      | false =>
        rw [send_of_not_queueFull hclosed topic ⟨key, value⟩ w hfull]
        cases hun : w.broker.unavailable with
        | true => rw [report_of_unavailable topic ⟨key, value⟩ w hun]
        | false =>
          rw [report_of_available topic ⟨key, value⟩ w hun]
          rfl
  close producer w := by
    rcases producer with ⟨_ | _, _ | _⟩ <;> rfl

instance {L : Type} [Kafka.ProducerLibrary L] [Kafka.ProducerLibrary.Lawful L] :
    LogProducer.Quiet (Kafka.Producer L) where
  send topic key value t producer w := by
    change (Kafka.Producer.send topic key value t producer w).2.alarms = w.alarms
    obtain ⟨c, result, l, h, -⟩ := producer.send_spec w topic key value t
    rw [h]
    rfl
  close producer w := by
    change (Kafka.Producer.close producer w).2.alarms = w.alarms
    obtain ⟨result, l, w', h, hw, -⟩ := producer.close_spec w
    rw [h]
    rcases hw with rfl | rfl
    · rfl
    · exact Shared.alarms_tell_of_quiet rfl w

instance : LogProducer.Quiet Scripted.Producer where
  send topic key value t producer w := by
    rcases producer with ⟨party, _ | ⟨answer | report | _ | _ | cause, answers⟩, closes⟩ <;> rfl
  close producer w := by
    rcases producer with ⟨_, _, _ | ⟨_ | _, _⟩⟩ <;> rfl

instance : LogProducer.Quiet Session.AnyProducer where
  send topic key value t producer w := by
    cases producer with
    | memory p => exact LogProducer.Quiet.send topic key value t p w
    | scripted p => exact LogProducer.Quiet.send topic key value t p w
    | offline p => exact LogProducer.Quiet.send topic key value t p w
  close producer w := by
    cases producer with
    | memory p => exact LogProducer.Quiet.close p w
    | scripted p => exact LogProducer.Quiet.close p w
    | offline p => exact LogProducer.Quiet.close p w

instance : ClientFactory.Quiet Broker.Factory where
  createProducer _ f w := by
    rcases f with ⟨_ | _, _, _, _, _⟩ <;> rfl
  createConsumer _ f w := by
    rcases f with ⟨_, _ | _, _, _, _⟩ <;> rfl

instance : ClientFactory.Quiet Scripted.Factory where
  createProducer _ f w := by
    rcases f with ⟨_, _ | ⟨_ | _, _⟩, _⟩ <;> rfl
  createConsumer _ f w := by
    rcases f with ⟨_, _, _ | ⟨_ | _, _⟩⟩ <;> rfl

instance {LP LC : Type} [Kafka.ProducerLibrary LP] [Kafka.ConsumerLibrary LC] :
    ClientFactory.Quiet (Kafka.Factory LP LC) where
  createProducer properties f w := by
    change (Kafka.Factory.createProducer properties f w).2.alarms = w.alarms
    rw [Kafka.Factory.createProducer, Try.bind_of_ok (Try.get_apply f w)]
    cases (Kafka.Producer.create properties f.flushTimeout : Except BrokerError (Kafka.Producer LP))
      <;> rfl
  createConsumer properties f w := by
    change (Kafka.Factory.createConsumer properties f w).2.alarms = w.alarms
    rw [Kafka.Factory.createConsumer, Try.bind_of_ok (Try.lift_of_eq (Shared.tell_eq _ w))]
    have htold : (Shared.tell (.consumerCreated (properties.get? Properties.group)) w).2.alarms =
        w.alarms := Shared.alarms_tell_of_quiet rfl w
    cases (Kafka.Consumer.create properties : Except BrokerError (Kafka.Consumer LC)) with
    | ok consumer => exact htold
    | error cause => exact htold

instance : ClientFactory.Quiet Session.AnyFactory where
  createProducer properties f w := by
    cases f with
    | memory f => exact ClientFactory.Quiet.createProducer properties f w
    | scripted f => exact ClientFactory.Quiet.createProducer properties f w
    | offline f => exact ClientFactory.Quiet.createProducer properties f w
  createConsumer properties f w := by
    cases f with
    | memory f => exact ClientFactory.Quiet.createConsumer properties f w
    | scripted f => exact ClientFactory.Quiet.createConsumer properties f w
    | offline f => exact ClientFactory.Quiet.createConsumer properties f w

/-! ## Consumers -/

/-- A consumer during whose steps no alarm is given, unless by its listener when it is polled. -/
class LogConsumer.Audited (C : Type) [LogConsumer C] where
  /-- When the listener is given partitions. -/
  hears : (timeout : Nat) → C → Shared → List Hearing
  subscribe (topic : String) (l : Option Listener) :
    (LogConsumer.subscribe topic l : Request C Unit).run.Quiet
  unsubscribe : (LogConsumer.unsubscribe : Request C Unit).run.Quiet
  poll (timeout : Nat) (c : C) (w : Shared) :
    w.Told ((LogConsumer.poll timeout : Request C (List Record)) c w).2
      ((hears timeout c w).flatMap Hearing.mishaps)
  close : (LogConsumer.close : Request C Unit).run.Quiet

section Poll

variable {C : Type} [LogConsumer C] [LogConsumer.Audited C]

/-- What goes wrong when a consumer is polled.  That the poll fails comes last. -/
def LogConsumer.mishapsOfPoll (timeout : Nat) (c : C) (w : Shared) : List Mishap :=
  (LogConsumer.Audited.hears timeout c w).flatMap Hearing.mishaps ++
    Mishap.ofAnswer .poll ((LogConsumer.poll timeout : Request C (List Record)) c w).1.1

/-- The ledger of a poll by whoever has the consumer. -/
def LogConsumer.incidentsOfPoll (timeout : Nat) : Ledger C := fun c w =>
  let result := ((LogConsumer.poll timeout : Request C (List Record)) c w).1.1
  Incident.answered ((result.map fun _ => ()).mapError .broker) (mishapsOfPoll timeout c w)

/-- All but that the poll fails is told. -/
theorem LogConsumer.accounted_poll (timeout : Nat) (c : C) (w : Shared) :
    w.Accounted ((LogConsumer.poll timeout : Request C (List Record)) c w).2
        (mishapsOfPoll timeout c w) ∧
      ∀ m ∈ mishapsOfPoll timeout c w, m.alarm? ≠ none ∨
        ∃ cause, ((LogConsumer.poll timeout : Request C (List Record)) c w).1.1 = .error cause ∧
          m = .poll cause := by
  have htold := LogConsumer.Audited.poll timeout c w
  have hanswer (w : Shared) (result : Except BrokerError (List Record)) :
      w.Accounted w (Mishap.ofAnswer .poll result) := by
    cases result <;> exact (List.append_nil _).symm
  refine ⟨htold.accounted.trans (hanswer _ _), fun m hm => ?_⟩
  rcases List.mem_append.mp hm with hm | hm
  · exact .inl (htold.alarm?_ne_none hm)
  · exact .inr (Mishap.mem_ofAnswer hm)

theorem LogConsumer.explained_poll (timeout : Nat) :
    (LogConsumer.poll timeout : Request C (List Record)).run.Explained
      (incidentsOfPoll timeout) := by
  intro c w
  obtain ⟨haccounted, hmishaps⟩ := accounted_poll timeout c w
  refine ⟨?_, fun i hi hnone => ?_⟩
  · rw [incidentsOfPoll, Incident.map_mishap_answered]
    exact haccounted
  · obtain ⟨m, hm, rfl⟩ := List.mem_map.mp hi
    rcases hmishaps m hm with htold | ⟨cause, hfailed, rfl⟩
    · exact absurd hnone htold
    · rw [hfailed]
      rfl

end Poll

theorem Broker.quiet_cursor : cursor.Quiet where
  endOffset _ _ _ := rfl
  seek p offset positions w := by rw [cursor_seek_apply]

/-- All partitions are assigned at the first poll. -/
def Broker.Consumer.hears (c : Consumer) (w : Shared) : List Hearing :=
  match c.closed, c.subscription with
  | false, some ⟨topic, some l, none⟩ =>
    [⟨Slots Nat, cursor, {}, l, w.broker.partitionsOf topic, w⟩]
  | _, _ => []

theorem Broker.Consumer.told_poll (c : Consumer) (w : Shared) :
    w.Told (poll c w).2 ((c.hears w).flatMap Hearing.mishaps) := by
  cases hopen : c.closed with
  | true =>
    rw [hears, hopen, poll, Try.bind_of_ok (Try.get_apply c w), hopen]
    exact .refl w
  | false =>
    cases hs : c.subscription with
    | none =>
      rw [hears, hopen, hs, poll, Try.bind_of_ok (Try.get_apply c w), hopen, hs]
      exact .refl w
    | some s =>
      have hpoll : (poll c w).2 = (s.assign w).2 := by
        rcases ha : s.assign w with ⟨positions, w'⟩
        cases hk : c.stalledPolls with
        | succ k => rw [poll_of_stalled hopen hs ha hk]
        | zero => rw [poll_apply hopen hs ha hk]
      rw [hpoll, hears, hopen, hs]
      rcases s with ⟨topic, _ | l, _ | positions⟩
      · exact .refl w
      · exact .refl w
      · have hassigned := l.told_assigned quiet_cursor (w.broker.partitionsOf topic) {} w
        rw [Subscription.assign_snd, List.flatMap_singleton]
        exact hassigned
      · exact .refl w

instance : LogConsumer.Audited Broker.Consumer where
  hears _ := Broker.Consumer.hears
  subscribe topic l c w := by
    rcases c with ⟨_, _ | _, _, _, _, _, _⟩ <;> rfl
  unsubscribe c w := by
    rcases c with ⟨_ | ⟨topic, _ | _ | _, positions⟩, _ | _, _, _, _, _, _⟩ <;> rfl
  poll _ c w := c.told_poll w
  close c w := by
    rcases c with ⟨_, _ | _, _ | _, _, _, _, _⟩ <;> rfl

/-- A library that is lawful gives no partitions to its listener. -/
instance {L : Type} [Kafka.ConsumerLibrary L] [Kafka.ConsumerLibrary.Lawful L] :
    LogConsumer.Audited (Kafka.Consumer L) where
  hears _ _ _ := []
  subscribe topic l _ w := congrArg Shared.alarms (Kafka.Consumer.subscribe_snd w topic l)
  unsubscribe _ w := congrArg Shared.alarms (Kafka.Consumer.unsubscribe_snd w)
  poll timeout _ w := .of_eq (congrArg Shared.alarms (Kafka.Consumer.poll_spec w timeout).1)
  close _ w := congrArg Shared.alarms (Kafka.Consumer.close_snd w)

namespace Scripted

theorem quiet_cursor (party : Nat) (as : List Assignment) : (cursor party as).Quiet where
  endOffset _ _ _ := rfl
  seek _ _ _ _ := rfl

namespace Consumer

/-- What is shared when a listener is to hear what is given to it. -/
def revoked (party : Nat) (l : Listener) (timeout : Nat) (ps : Option (List TopicPartition))
    (w : Shared) : Shared :=
  match ps with
  | none => (Shared.call party (.poll timeout) w).2
  | some ps => (l.revoked ps (Shared.call party (.poll timeout) w).2).2

def hears (timeout : Nat) (c : Consumer) (w : Shared) : List Hearing :=
  match c.polls.head?, c.listener with
  | some (.batch ps (some as) _), some l =>
    [⟨Unit, cursor c.party as, (), l, as.map (·.partition), revoked c.party l timeout ps w⟩]
  | _, _ => []

theorem told_poll (timeout : Nat) (c : Consumer) (w : Shared) :
    w.Told (poll timeout c w).2 ((c.hears timeout w).flatMap Hearing.mishaps) := by
  rcases c with ⟨party, _, _, _ | ⟨cause | ⟨ps, as, records⟩, polls⟩, _, l⟩
  · exact .of_eq rfl
  · exact .of_eq rfl
  · have hcall : w.Told (Shared.call party (.poll timeout) w).2 [] := .of_eq rfl
    cases l with
    | none => cases as <;> exact hcall
    | some l =>
      have hrevoked : w.Told (revoked party l timeout ps w) [] := by
        cases ps with
        | none => exact hcall
        | some ps => cases l <;> exact .of_eq rfl
      cases as with
      | none => cases ps <;> exact hrevoked
      | some as =>
        have hassigned := l.told_assigned (quiet_cursor party as) (as.map (·.partition)) ()
          (revoked party l timeout ps w)
        simp only [hears, List.head?_cons, List.flatMap_singleton]
        cases ps <;> exact hrevoked.trans hassigned

end Consumer

end Scripted

instance : LogConsumer.Audited Scripted.Consumer where
  hears := Scripted.Consumer.hears
  subscribe topic l c w := by
    rcases c with ⟨_, _ | ⟨_ | _, _⟩, _, _, _, _⟩ <;> rfl
  unsubscribe c w := by
    rcases c with ⟨_, _, _ | ⟨_ | _, _⟩, _, _, _⟩ <;> rfl
  poll := Scripted.Consumer.told_poll
  close c w := by
    rcases c with ⟨_, _, _, _, _ | ⟨_ | _, _⟩, _⟩ <;> rfl

instance : LogConsumer.Audited Session.AnyConsumer where
  hears timeout
    | .memory c => LogConsumer.Audited.hears timeout c
    | .scripted c => LogConsumer.Audited.hears timeout c
    | .offline c => LogConsumer.Audited.hears timeout c
  subscribe topic l c w := by
    cases c with
    | memory c => exact LogConsumer.Audited.subscribe topic l c w
    | scripted c => exact LogConsumer.Audited.subscribe topic l c w
    | offline c => exact LogConsumer.Audited.subscribe topic l c w
  unsubscribe c w := by
    cases c with
    | memory c => exact LogConsumer.Audited.unsubscribe c w
    | scripted c => exact LogConsumer.Audited.unsubscribe c w
    | offline c => exact LogConsumer.Audited.unsubscribe c w
  poll timeout c w := by
    cases c with
    | memory c => exact LogConsumer.Audited.poll timeout c w
    | scripted c => exact LogConsumer.Audited.poll timeout c w
    | offline c => exact LogConsumer.Audited.poll timeout c w
  close c w := by
    cases c with
    | memory c => exact LogConsumer.Audited.close c w
    | scripted c => exact LogConsumer.Audited.close c w
    | offline c => exact LogConsumer.Audited.close c w

/-! ## Deserializers -/

/-- A position is published. -/
structure Publication (P : Type) where
  position : Position
  path : WritePath P
  shared : Shared

def Publication.incidents {P : Type} [LogProducer P] (x : Publication P) : List Incident :=
  WritePath.incidents x.position x.path x.shared

/-- A deserializer during whose steps no alarm is given, unless about what it publishes. -/
class Deserializer.Audited (D : Type) [Deserializer D] where
  /-- What it publishes when it is given a record. -/
  publishes : {P : Type} → [LogProducer P] → (key value : Bytes) → Intake D P → Shared →
    List (Publication P)
  deserialize {P : Type} [LogProducer P] [LogProducer.Quiet P] (key value : Bytes) (i : Intake D P)
    (w : Shared) :
    w.Explained (Deserializer.deserialize key value i w).2
      ((publishes key value i w).flatMap Publication.incidents)

instance : Deserializer.Audited Loader where
  publishes _ _ _ _ := []
  deserialize key value i w := by
    refine .of_eq ?_
    change (i.deserializer.load key value w).2.alarms = w.alarms
    rw [Loader.load]
    cases Position.ofRecord? key value <;> rfl

namespace Scripted.Deserializer

variable {P : Type} [LogProducer P]

def hookPublishes (h : Hook) (write : Option (WritePath P)) (w : Shared) : List (Publication P) :=
  match h, write with
  | .publish p, some path => [⟨p, path, w⟩]
  | _, _ => []

def hooksPublish : List Hook → Option (WritePath P) → Shared → List (Publication P)
  | [], _, _ => []
  | h :: hs, write, w => hookPublishes h write w ++
    hooksPublish hs (runHook h write w).1.2 (runHook h write w).2

variable [LogProducer.Quiet P]

theorem explained_runHook (h : Hook) (write : Option (WritePath P)) (w : Shared) :
    w.Explained (runHook h write w).2
      ((hookPublishes h write w).flatMap Publication.incidents) := by
  cases write with
  | none => cases h <;> exact .of_eq rfl
  | some path =>
    cases h with
    | publish p =>
      have hpublished := WritePath.explained_publish p path w
      rw [hookPublishes, List.flatMap_singleton]
      exact ⟨hpublished.accounted, hpublished.settled⟩
    | broker c => exact .of_eq rfl
    | losses => exact .of_eq rfl
    | clearLosses => exact .of_eq rfl

theorem explained_hooks (hs : List Hook) (write : Option (WritePath P)) (w : Shared) :
    w.Explained (hs.forM runHook write w).2
      ((hooksPublish hs write w).flatMap Publication.incidents) := by
  induction hs generalizing write w with
  | nil => exact .refl w
  | cons h hs ih =>
    rw [hooksPublish, List.flatMap_append]
    exact (explained_runHook h write w).trans (ih _ _)

end Scripted.Deserializer

instance : Deserializer.Audited Scripted.Deserializer where
  publishes key value i w := Scripted.Deserializer.hooksPublish
    (i.deserializer.hooksAt (i.deserializer.seen + 1)) i.write
    (Shared.observe (.record key value) w).2
  deserialize key value i w := by
    have hseen : w.Explained (Shared.observe (.record key value) w).2 [] := .of_eq rfl
    exact hseen.trans (Scripted.Deserializer.explained_hooks _ i.write _)

instance : Deserializer.Audited Session.AnyDeserializer where
  publishes
    | key, value, ⟨.loader l, write⟩ => Deserializer.Audited.publishes key value ⟨l, write⟩
    | key, value, ⟨.scripted d, write⟩ => Deserializer.Audited.publishes key value ⟨d, write⟩
  deserialize key value i w := by
    rcases i with ⟨l | d, write⟩
    · exact Deserializer.Audited.deserialize key value (⟨l, write⟩ : Intake Loader _) w
    · exact Deserializer.Audited.deserialize key value (⟨d, write⟩ : Intake Scripted.Deserializer _)
        w

end PositionLog
