import PositionLog.Proofs.Broker.Turns
import PositionLog.Proofs.Custody
import PositionLog.Proofs.Replay.Rounds

/-!
# Lawful clients

All clients that there are count what they find and what they add, so each replay of theirs is over
before its rounds are.
-/

namespace PositionLog

/-! ## Steps that add records -/

namespace Act.Adds

variable {S T α β ε : Type} {m n : Nat}

theorem of_eq {x : Act S α} (h : ∀ s w, (x s w).2.broker = w.broker) : x.Adds 0 :=
  fun s w => .of_eq (h s w)

theorem mono {x : Act S α} (h : x.Adds m) (hmn : m ≤ n) : x.Adds n := fun s w => (h s w).mono hmn

theorem pure (a : α) : (Pure.pure a : Act S α).Adds 0 := of_eq fun _ _ => rfl

theorem bind {x : Act S α} {f : α → Act S β} (hx : x.Adds m) (hf : ∀ a, (f a).Adds n) :
    (x >>= f).Adds (m + n) :=
  fun s w => (hx s w).trans (hf _ _ _)

theorem try_bind {x : Try ε S α} {f : α → Try ε S β} (hx : x.run.Adds m)
    (hf : ∀ a, (f a).run.Adds n) : (x >>= f).run.Adds (m + n) := by
  intro s w
  have hgrows : w.broker.Grows m (x s w).2.broker := hx s w
  rw [Try.run_apply]
  rcases hstep : x s w with ⟨⟨cause | a, s'⟩, w'⟩
  · rw [hstep] at hgrows
    rw [Try.bind_apply, hstep]
    exact hgrows.mono (Nat.le_add_right m n)
  · rw [hstep] at hgrows
    rw [Try.bind_of_ok hstep]
    exact hgrows.trans (hf a s' w')

theorem on {x : Act T α} (h : x.Adds n) (part : S → T) (put : T → S → S) :
    (x.on part put).Adds n :=
  fun s w => h (part s) w

theorem onSome {x : Act T α} (h : x.Adds n) : x.onSome.Adds n
  | none, w => (Broker.Grows.refl w.broker).mono (Nat.zero_le n)
  | some t, w => h t w

/-- Steps one after the other add as much as all of them may. -/
theorem forM {f : β → Act S Unit} {adds : β → Nat} (h : ∀ b, (f b).Adds (adds b)) (bs : List β) :
    (bs.forM f).Adds (bs.map adds).sum := by
  induction bs with
  | nil => exact pure ()
  | cons b bs ih => exact (h b).bind fun _ => ih

end Act.Adds

/-! ## Producers -/

instance : LawfulProducer Broker.Producer where
  send topic key value t producer w := by
    change w.broker.Grows 1 (Broker.Producer.send topic key value producer w).2.broker
    cases hclosed : producer.closed with
    | true =>
      rw [send_of_closed topic ⟨key, value⟩ w hclosed]
      exact (Broker.Grows.refl _).mono (Nat.zero_le 1)
    | false =>
      cases hfull : w.broker.queueFull with
      | true =>
        rw [send_of_queueFull hclosed topic ⟨key, value⟩ w hfull]
        exact (Broker.Grows.refl _).mono (Nat.zero_le 1)
      | false =>
        rw [send_of_not_queueFull hclosed topic ⟨key, value⟩ w hfull]
        cases hun : w.broker.unavailable with
        | true =>
          rw [report_of_unavailable topic ⟨key, value⟩ w hun]
          exact (Broker.Grows.refl _).mono (Nat.zero_le 1)
        | false =>
          rw [report_of_available topic ⟨key, value⟩ w hun]
          exact .push w.broker topic ⟨key, value⟩

instance {L : Type} [Kafka.ProducerLibrary L] [Kafka.ProducerLibrary.Lawful L] :
    LawfulProducer (Kafka.Producer L) where
  send topic key value t producer w := by
    change w.broker.Grows 1 (Kafka.Producer.send topic key value t producer w).2.broker
    obtain ⟨c, result, l, h, -⟩ := producer.send_spec w topic key value t
    rw [h]
    exact (Broker.Grows.refl _).mono (Nat.zero_le 1)

instance : LawfulProducer Scripted.Producer where
  send topic key value t producer w := by
    refine (Broker.Grows.of_eq ?_).mono (Nat.zero_le 1)
    rcases producer with ⟨party, _ | ⟨answer | report | _ | _ | cause, answers⟩, closes⟩ <;> rfl

instance : LawfulProducer Session.AnyProducer where
  send topic key value t producer w := by
    cases producer with
    | memory p => exact LawfulProducer.send topic key value t p w
    | scripted p => exact LawfulProducer.send topic key value t p w
    | offline p => exact LawfulProducer.send topic key value t p w

/-! ## Publishing -/

section Publish

variable {P : Type} [LogProducer P]

theorem Shared.broker_settle (t : Ticket) (report : Report) (w : Shared) :
    (settle t report w).2.broker = w.broker := by
  cases t with
  | watcher => rfl
  | writer losses key => cases report <;> rfl

variable [LawfulProducer P]

theorem LogProducer.adds_transmit (topic : String) (key value : Bytes) (t : Ticket) :
    (transmit topic key value t : Request P Unit).run.Adds 1 := by
  have hsend := LawfulProducer.send (P := P) topic key value t
  refine Act.Adds.try_bind (n := 0) hsend fun receipt => ?_
  cases receipt with
  | settled report => exact .of_eq fun _ w => Shared.broker_settle t report w
  | outstanding => exact .pure _

theorem Writer.adds_append (x : Writer) (key value : Bytes) :
    (x.append key value : Request P Unit).run.Adds 1 := by
  have hsent := LogProducer.adds_transmit (P := P) x.topic key value (.writer x.losses key)
  have houtcome := hsent.bind fun result => Act.Adds.pure (Except.ok (ε := BrokerError) result)
  refine Act.Adds.try_bind (n := 0) houtcome fun result => ?_
  match result with
  | .ok () => exact .pure _
  | .error .closed => exact .pure _
  | .error (.unavailable _) | .error (.invalidState _) | .error (.kafka _) =>
    exact .of_eq fun _ _ => rfl

theorem WritePath.adds_publish (p : Position) :
    (publish p : Operation (WritePath P) Unit).run.Adds 1 := by
  rintro ⟨writer, producer, cache⟩ w
  cases producer with
  | none => exact (Broker.Grows.refl w.broker).mono (Nat.zero_le 1)
  | some producer =>
    have hgrows := writer.adds_append p.key p.value producer
      (w.withNotices (w.notices.push (.updating writer.topic p.key.length p.value.length)))
    rw [Try.run_apply, publish_of_answer (s := ⟨writer, some producer, cache⟩) rfl rfl,
      mirror_apply]
    exact hgrows

end Publish

/-! ## Consumers -/

theorem Broker.Consumer.backlog_reading (c : Consumer) (s : Subscription) (positions : Slots Nat)
    (stalledPolls polls : Nat) (w : Shared) :
    (c.reading s positions stalledPolls polls).backlog w = w.broker.unread s.topic positions := rfl

/-- What is unread becomes less by what is read. -/
theorem Broker.Consumer.backlog_polled {c : Consumer} {w w' : Shared} {batch : List Record}
    (h : (c.polled w.broker).1 = .ok batch) (hw : w'.broker = w.broker) :
    (c.polled w.broker).2.backlog w' + min 1 batch.length ≤ c.backlog w := by
  unfold polled at h ⊢
  cases hopen : c.closed with
  | true =>
    rw [hopen] at h
    cases h
  | false =>
    rw [hopen, if_neg Bool.false_ne_true] at h
    rw [if_neg Bool.false_ne_true]
    cases hs : c.subscription with
    | none =>
      rw [hs] at h
      cases h
    | some s =>
      have hle := Replay.unread_le_backlog hs w
      rw [hs] at h
      dsimp only at h ⊢
      by_cases hstall : 0 < c.stalledPolls
      · rw [if_pos hstall] at h ⊢
        cases h
        rw [backlog_reading, hw]
        exact hle
      · rw [if_neg hstall] at h ⊢
        cases h
        obtain ⟨positions, htake, -, hrest⟩ :=
          w.broker.takeUnread_spec s.topic c.maxPollRecords (s.settled w.broker)
        rw [htake, backlog_reading, hw, unread_eq, hrest]
        dsimp only
        rw [unread_eq] at hle
        have hlen := congrArg List.length (List.take_append_drop c.maxPollRecords
          (w.broker.unreadAll s.topic (s.settled w.broker)))
        rw [List.length_append] at hlen
        omega

instance : LawfulConsumer Broker.Consumer where
  poll timeout c w := by
    intro x batch hbatch
    obtain ⟨w', hpoll, hw⟩ := c.poll_eq w
    have hx : x = (c.polled w.broker, w') := hpoll
    rw [hx] at hbatch ⊢
    exact Broker.Consumer.backlog_polled hbatch hw
  grows c w w' hgrows := by
    change c.backlog w' ≤ c.backlog w + _
    unfold Broker.Consumer.backlog
    match c.subscription with
    | none => exact Nat.zero_le _
    | some { topic, positions := none, .. } => exact hgrows.recordCount_le topic
    | some { topic, positions := some positions, .. } =>
      have hunread := (hgrows.extends_ topic).unread_le positions
      have hcount := hgrows.recordCount_le topic
      dsimp only
      omega

instance {L : Type} [Kafka.ConsumerLibrary L] [Kafka.ConsumerLibrary.Lawful L] :
    LawfulConsumer (Kafka.Consumer L) where
  poll timeout c w := by
    intro x batch hbatch
    have hle := (Kafka.Consumer.poll_spec (c := c) w timeout).2
    change Kafka.ConsumerLibrary.backlog x.1.2.library + min 1 batch.length ≤
      Kafka.ConsumerLibrary.backlog c.library
    have hx : Kafka.Consumer.poll timeout c w = x := rfl
    rw [hx, hbatch] at hle
    dsimp only at hle
    omega
  grows _ _ _ _ := Nat.le_add_right _ _

instance : LawfulConsumer Scripted.Consumer where
  poll timeout c w := by
    rcases c with ⟨party, _, _, _ | ⟨cause | ⟨ps, as, records⟩, polls⟩, _, l⟩
    · rintro x batch ⟨⟩
      exact Nat.le_refl _
    · rintro x batch ⟨⟩
    · rintro x batch -
      exact Nat.add_le_add_left (Nat.min_le_left 1 _) polls.length
  grows _ _ _ _ := Nat.le_add_right _ _

instance : LawfulConsumer Session.AnyConsumer where
  poll timeout c w := by
    cases c with
    | memory c => exact LawfulConsumer.poll timeout c w
    | scripted c => exact LawfulConsumer.poll timeout c w
    | offline c => exact LawfulConsumer.poll timeout c w
  grows c w w' h := by
    cases c with
    | memory c => exact LawfulConsumer.grows c h
    | scripted c => exact LawfulConsumer.grows c h
    | offline c => exact LawfulConsumer.grows c h

/-! ## Deserializers -/

instance : LawfulDeserializer Loader where
  deserialize key value i w := by
    refine ⟨0, .of_eq ?_, Nat.le_refl 0⟩
    change (i.deserializer.load key value w).2.broker = w.broker
    rw [Loader.load]
    cases Position.ofRecord? key value <;> rfl

namespace Scripted.Deserializer

section Hooks

variable {P : Type} [LogProducer P] [LawfulProducer P]

theorem adds_perform (h : Hook) :
    (perform h : Act (Option (WritePath P)) HookReply).Adds h.appends := by
  cases h with
  | broker c => exact fun _ w => .run w.broker c
  | publish p =>
    exact Act.Adds.bind (n := 0) (Act.Adds.onSome (WritePath.adds_publish p)) fun _ => .pure _
  | losses => exact .of_eq fun write _ => by cases write <;> rfl
  | clearLosses => exact .of_eq fun write _ => by cases write <;> rfl

theorem adds_runHook (h : Hook) :
    (runHook h : Act (Option (WritePath P)) Unit).Adds h.appends :=
  Act.Adds.bind (n := 0) (adds_perform h) fun _ => .of_eq fun _ _ => rfl

end Hooks

/-- What hooks may append. -/
def appendsOf (hs : List Hook) : Nat := (hs.map Hook.appends).sum

theorem appendsOf_append (hs hs' : List Hook) :
    appendsOf (hs ++ hs') = appendsOf hs + appendsOf hs' := by
  rw [appendsOf, List.map_append, List.sum_append]
  rfl

/-- What is done at a record is not to be done after it. -/
theorem appendsOf_lookup_le (hooks : List (Nat × List Hook)) (n : Nat) :
    appendsOf ((hooks.filter (n + 1 < ·.1)).flatMap (·.2)) +
        appendsOf ((hooks.lookup (n + 1)).getD []) ≤
      appendsOf ((hooks.filter (n < ·.1)).flatMap (·.2)) := by
  induction hooks with
  | nil => exact Nat.le_refl 0
  | cons h hooks ih =>
    obtain ⟨k, hs⟩ := h
    rw [List.lookup_cons, List.filter_cons, List.filter_cons]
    rcases Nat.lt_trichotomy k (n + 1) with hlt | rfl | hgt
    · rw [beq_false_of_ne hlt.ne', if_neg (by simpa using hlt.le),
        if_neg (by simpa using Nat.le_of_lt_succ hlt)]
      exact ih
    · rw [beq_self_eq_true, if_neg (by simp), if_pos (by simp), List.flatMap_cons, appendsOf_append,
        Option.getD_some]
      dsimp only
      omega
    · rw [beq_false_of_ne hgt.ne, if_pos (by simpa using hgt),
        if_pos (by simpa using Nat.lt_of_succ_lt hgt), List.flatMap_cons, List.flatMap_cons,
        appendsOf_append, appendsOf_append]
      dsimp only
      omega

end Scripted.Deserializer

instance : LawfulDeserializer Scripted.Deserializer where
  deserialize {P _ _} key value i w := by
    let d := i.deserializer
    let i' : Intake Scripted.Deserializer P :=
      { i with deserializer := { d with seen := d.seen + 1 } }
    have hhooks := (Act.Adds.forM Scripted.Deserializer.adds_runHook (d.hooksAt (d.seen + 1))).on
      Intake.write (fun write (s : Intake Scripted.Deserializer P) => { s with write }) i'
      (Shared.observe (.record key value) w).2
    have hle := Scripted.Deserializer.appendsOf_lookup_le d.hooks d.seen
    exact ⟨_, hhooks, hle⟩

instance : LawfulDeserializer Session.AnyDeserializer where
  deserialize key value i w := by
    rcases i with ⟨l | d, write⟩
    · exact LawfulDeserializer.deserialize key value (⟨l, write⟩ : Intake Loader _) w
    · exact LawfulDeserializer.deserialize key value (⟨d, write⟩ : Intake Scripted.Deserializer _) w

end PositionLog
