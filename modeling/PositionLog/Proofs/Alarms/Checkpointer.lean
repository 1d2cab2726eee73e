import PositionLog.Proofs.Alarms.Clients
import PositionLog.Proofs.Checkpointer.Command

/-!
# What goes wrong with a checkpointer

Whatever a checkpointer is told to do, the alarms that it gives are those about what goes wrong
with its clients meanwhile.  It answers with what goes wrong otherwise: that its producer is closed
when it is to publish, and that its consumer cannot subscribe or be polled.
-/

namespace PositionLog

/-! ## Reading back -/

namespace ReadPath

variable {C D : Type} [LogConsumer C]

def mishapsOfSubscribe (topic : String) (depth : Nat) (s : ReadPath C D) (w : Shared) :
    List Mishap :=
  match s.subscribed, s.consumer with
  | false, some consumer =>
    let listener := if 1 ≤ depth then some (.rewind ⟨depth⟩) else none
    Mishap.ofAnswer .subscribe ((LogConsumer.subscribe topic listener : Request C Unit) consumer
      (Shared.tell (.subscribing topic depth) w).2).1.1
  | _, _ => []

def mishapsOfUnsubscribe (topic : String) (s : ReadPath C D) (w : Shared) : List Mishap :=
  match s.consumer with
  | none => []
  | some consumer =>
    Mishap.ofAnswer (.unsubscribe topic) ((LogConsumer.unsubscribe : Request C Unit) consumer w).1.1

theorem mishapsOfSubscribe_of_answer {topic : String} {depth : Nat} {c c' : C} {d : Option D}
    {result : Except BrokerError Unit} {w w' : Shared}
    (h : (LogConsumer.subscribe topic (if 1 ≤ depth then some (.rewind ⟨depth⟩) else none) :
      Request C Unit) c (Shared.tell (.subscribing topic depth) w).2 = ((result, c'), w')) :
    mishapsOfSubscribe topic depth ⟨some c, false, d⟩ w = Mishap.ofAnswer .subscribe result :=
  congrArg (fun x : (Except BrokerError Unit × C) × Shared => Mishap.ofAnswer .subscribe x.1.1) h

theorem mishapsOfUnsubscribe_of_answer (topic : String) (subscribed : Bool) {c c' : C}
    (d : Option D) {result : Except BrokerError Unit} {w w' : Shared}
    (h : (LogConsumer.unsubscribe : Request C Unit) c w = ((result, c'), w')) :
    mishapsOfUnsubscribe topic ⟨some c, subscribed, d⟩ w =
      Mishap.ofAnswer (.unsubscribe topic) result :=
  congrArg (fun x : (Except BrokerError Unit × C) × Shared =>
    Mishap.ofAnswer (.unsubscribe topic) x.1.1) h

variable [LogConsumer.Audited C]

/-- That a consumer cannot subscribe is answered. -/
theorem explained_subscribe (topic : String) (depth : Nat) (s : ReadPath C D) (w : Shared) :
    w.Explained (subscribe topic depth s w).2
      (Incident.answered (subscribe topic depth s w).1.1 (s.mishapsOfSubscribe topic depth w)) := by
  obtain ⟨_ | c, _ | _, d⟩ := s
  · exact .refl w
  · exact .refl w
  · let listener : Option Listener := if 1 ≤ depth then some (.rewind ⟨depth⟩) else none
    let w₁ := (Shared.tell (.subscribing topic depth) w).2
    have hquiet := LogConsumer.Audited.subscribe topic listener c w₁
    rcases hjoin : (LogConsumer.subscribe topic listener : Request C Unit) c w₁ with
      ⟨⟨result, c'⟩, w'⟩
    rw [Try.run_apply, hjoin] at hquiet
    have htold : w.Told w' [] := (Shared.told_quiet rfl w).trans (.of_eq hquiet)
    rw [mishapsOfSubscribe_of_answer hjoin, subscribe_of_answer hjoin]
    cases result with
    | ok _ => exact htold (.ok ())
    | error cause => exact ⟨htold.accounted, List.forall_mem_singleton.mpr fun _ => rfl⟩
  · exact .refl w

theorem told_unsubscribe (topic : String) (s : ReadPath C D) (w : Shared) :
    w.Told (unsubscribe topic s w).2 (s.mishapsOfUnsubscribe topic w) := by
  obtain ⟨_ | c, subscribed, d⟩ := s
  · exact .refl w
  · have hquiet := LogConsumer.Audited.unsubscribe c w
    rcases hleave : (LogConsumer.unsubscribe : Request C Unit) c w with ⟨⟨result, c'⟩, w'⟩
    rw [Try.run_apply, hleave] at hquiet
    have halarm (cause : BrokerError) :
        (Mishap.unsubscribe topic cause).alarm? = some (complaint topic cause) := by
      cases cause <;> rfl
    rw [mishapsOfUnsubscribe_of_answer topic subscribed d hleave,
      unsubscribe_of_answer topic subscribed d hleave]
    exact (Shared.Told.of_eq hquiet).trans (Shared.told_complained halarm w' result)

end ReadPath

namespace Replay.Playback

variable {C D P : Type} [LogConsumer C] [LogConsumer.Audited C]

/-- The ledger of a poll, of which whoever asked for the replay is answered this. -/
def incidentsOfPoll (timeout : Nat) (answer : Except Error Unit) : Ledger (Playback C D P) :=
  fun s w => Incident.answered answer (LogConsumer.mishapsOfPoll timeout s.consumer w)

theorem notes_poll (timeout : Nat) (answer : Except Error Unit) :
    Try.Notes answer (poll timeout : Request (Playback C D P) _)
      ((poll timeout : Request (Playback C D P) _).run.watch (incidentsOfPoll timeout answer)) := by
  intro s noted w
  obtain ⟨haccounted, hmishaps⟩ := LogConsumer.accounted_poll timeout s.consumer w
  refine ⟨incidentsOfPoll timeout answer s w, rfl, ?_, fun i hi => ?_⟩
  · rw [incidentsOfPoll, Incident.map_mishap_answered]
    exact haccounted
  · obtain ⟨m, hm, rfl⟩ := List.mem_map.mp hi
    rcases hmishaps m hm with htold | ⟨cause, hfailed, rfl⟩
    · exact .inl fun hnone => absurd hnone htold
    · exact .inr ⟨cause, hfailed, rfl⟩

variable [Deserializer D] [Deserializer.Audited D] [LogProducer P]

def incidentsOfTake (key value : Bytes) : Ledger (Playback C D P) := fun s w =>
  (Deserializer.Audited.publishes key value s.toIntake w).flatMap Publication.incidents

/-- What is noted while the replay goes on, poll by poll and record by record. -/
def incidents (timeout retries : Nat) (halt : HaltScope) (answer : Except Error Unit) :
    Ledger (Playback C D P) := fun s w =>
  let watchedPoll : Request (Playback C D P × List Incident) (List Record) :=
    (poll timeout : Request (Playback C D P) _).run.watch (incidentsOfPoll timeout answer)
  let watchedTake := fun key value => (take key value).watch (incidentsOfTake key value)
  (drain watchedPoll watchedTake retries halt (s.rounds w) {}).run.noted s w

variable [LogProducer.Quiet P]

theorem explained_run (timeout retries : Nat) (halt : HaltScope) (answer : Except Error Unit)
    (s : Playback C D P) (w : Shared)
    (hanswer : ∀ cause, (run timeout retries halt s w).1.1 = .error cause →
      answer = .error (.broker cause)) :
    w.Explained (run timeout retries halt s w).2 (incidents timeout retries halt answer s w) := by
  rw [run_apply] at hanswer ⊢
  have htake (key value : Bytes) : Act.Notes Shared.Explained
      (take key value : Act (Playback C D P) Bool)
      ((take key value).watch (incidentsOfTake key value)) := fun s _ w =>
    ⟨incidentsOfTake key value s w, rfl, Deserializer.Audited.deserialize key value s.toIntake w⟩
  have hnotes := (Try.congruence_notes answer).drain (notes_poll timeout answer) htake retries halt
    (s.rounds w) {}
  obtain ⟨hacc, hsettled⟩ := hnotes.noted s w
  refine ⟨hacc, fun i hi => ?_⟩
  rcases hsettled i hi with hi | ⟨cause, hfailed, rfl⟩
  · exact hi
  · exact fun _ => hanswer cause hfailed

end Replay.Playback

namespace Checkpointer

variable {F P C D : Type}

/-! ## Beginning -/

section Init

variable [ClientFactory F P C]

def mishapsOfConsumer (s : Checkpointer F P C D) (w : Shared) : List Mishap :=
  match s.read.consumer with
  | some _ => []
  | none => Mishap.ofAnswer (.create .consumer)
    ((ClientFactory.createConsumer s.settings.consumer : Request F C) s.factory w).1.1

def mishapsOfProducer (s : Checkpointer F P C D) (w : Shared) : List Mishap :=
  match s.write.producer with
  | some _ => []
  | none => Mishap.ofAnswer (.create .producer)
    ((ClientFactory.createProducer s.settings.producer : Request F P) s.factory w).1.1

/-- Both clients are tried, and both may fail. -/
def mishapsOfInit (s : Checkpointer F P C D) (w : Shared) : List Mishap :=
  match s.isStopped with
  | true => []
  | false =>
    let w₁ := (Shared.tell (.initializing s.topic) w).2
    s.mishapsOfConsumer w₁ ++ (createConsumer s w₁).1.2.mishapsOfProducer (createConsumer s w₁).2

variable [ClientFactory.Quiet F] (s : Checkpointer F P C D) (w : Shared)

theorem told_createConsumer : w.Told (createConsumer s w).2 (s.mishapsOfConsumer w) := by
  rw [mishapsOfConsumer]
  cases hc : s.read.consumer with
  | some c =>
    rw [createConsumer_of_some hc w]
    exact .refl w
  | none =>
    have hquiet := ClientFactory.Quiet.createConsumer (P := P) (C := C) s.settings.consumer
      s.factory w
    rcases hcreate : (ClientFactory.createConsumer s.settings.consumer : Request F C) s.factory w
      with ⟨⟨result, factory⟩, w'⟩
    rw [Try.run_apply, hcreate] at hquiet
    cases result with
    | ok consumer =>
      rw [createConsumer_of_ok hc hcreate]
      exact .of_eq hquiet
    | error cause =>
      rw [createConsumer_of_error hc hcreate]
      exact (Shared.Told.of_eq hquiet).trans (Shared.told_alarm rfl w')

theorem told_createProducer : w.Told (createProducer s w).2 (s.mishapsOfProducer w) := by
  rw [mishapsOfProducer]
  cases hp : s.write.producer with
  | some producer =>
    rw [createProducer_of_some hp w]
    exact .refl w
  | none =>
    have hquiet := ClientFactory.Quiet.createProducer (P := P) (C := C) s.settings.producer
      s.factory w
    rcases hcreate : (ClientFactory.createProducer s.settings.producer : Request F P) s.factory w
      with ⟨⟨result, factory⟩, w'⟩
    rw [Try.run_apply, hcreate] at hquiet
    cases result with
    | ok producer =>
      rw [createProducer_of_ok hp hcreate]
      exact .of_eq hquiet
    | error cause =>
      rw [createProducer_of_error hp hcreate]
      exact (Shared.Told.of_eq hquiet).trans (Shared.told_alarm rfl w')

theorem told_init : w.Told (init s w).2 (s.mishapsOfInit w) := by
  rw [mishapsOfInit]
  cases hstopped : s.isStopped with
  | true =>
    rw [init_of_stopped hstopped w]
    exact .refl w
  | false =>
    let w₀ := w.withNotices (w.notices.push (.initializing s.topic))
    have htold : w.Told w₀ [] := Shared.told_quiet rfl w
    have hconsumer := told_createConsumer s w₀
    rcases hfirst : createConsumer s w₀ with ⟨⟨first, s₁⟩, w₁⟩
    rw [hfirst] at hconsumer
    have hproducer := told_createProducer s₁ w₁
    rcases hsecond : createProducer s₁ w₁ with ⟨⟨second, s₂⟩, w₂⟩
    rw [hsecond] at hproducer
    have hall := htold.trans (hconsumer.trans hproducer)
    rw [init_of_answers hstopped hfirst hsecond, Shared.tell_eq]
    dsimp only
    rw [hfirst]
    cases first.or second with
    | none => exact hall
    | some e => exact hall

end Init

/-! ## Ending -/

section Producer

variable [LogProducer P]

/-- The producer is closed and dropped. -/
def mishapsOfProducerClose (s : Checkpointer F P C D) (w : Shared) : List Mishap :=
  match s.write.producer with
  | none => []
  | some producer =>
    let closed := (LogProducer.close : Request P Unit) producer
      (Shared.tell (.closing .producer) w).2
    Mishap.ofAnswer (.close .producer) closed.1.1 ++ LogProducer.mishapsOfDrop closed.1.2

theorem told_closeProducer [LogProducer.Quiet P] (s : Checkpointer F P C D) (w : Shared) :
    w.Told (closeProducer s w).2 (s.mishapsOfProducerClose w) := by
  rw [mishapsOfProducerClose]
  cases hp : s.write.producer with
  | none =>
    rw [closeProducer_of_none hp w]
    exact .refl w
  | some producer =>
    let w₀ := w.withNotices (w.notices.push (.closing .producer))
    have htold : w.Told w₀ [] := Shared.told_quiet rfl w
    have hquiet := LogProducer.Quiet.close producer w₀
    rcases hclose : (LogProducer.close : Request P Unit) producer w₀ with ⟨⟨result, producer'⟩, w₁⟩
    rw [Try.run_apply, hclose] at hquiet
    have halarm (cause : BrokerError) :
        (Mishap.close .producer cause).alarm? = some (.closeFailed .producer cause) := rfl
    have hclosed := (htold.trans (.of_eq hquiet)).trans (Shared.told_complained halarm w₁ result)
    rw [closeProducer_of_answer hp hclose, Shared.tell_eq]
    dsimp only
    rw [hclose]
    exact hclosed.trans (LogProducer.told_drop producer' _)

end Producer

section Consumer

variable [LogConsumer C]

def mishapsOfConsumerClose (s : Checkpointer F P C D) (w : Shared) : List Mishap :=
  match s.read.consumer with
  | none => []
  | some consumer =>
    Mishap.ofAnswer (.close .consumer) ((LogConsumer.close : Request C Unit) consumer
      (Shared.tell (.closing .consumer) w).2).1.1

theorem told_closeConsumer [LogConsumer.Audited C] (s : Checkpointer F P C D) (w : Shared) :
    w.Told (closeConsumer s w).2 (s.mishapsOfConsumerClose w) := by
  rw [mishapsOfConsumerClose]
  cases hc : s.read.consumer with
  | none =>
    rw [closeConsumer_of_none hc w]
    exact .refl w
  | some consumer =>
    let w₀ := w.withNotices (w.notices.push (.closing .consumer))
    have htold : w.Told w₀ [] := Shared.told_quiet rfl w
    have hquiet := LogConsumer.Audited.close consumer w₀
    rcases hclose : (LogConsumer.close : Request C Unit) consumer w₀ with ⟨⟨result, consumer'⟩, w₁⟩
    rw [Try.run_apply, hclose] at hquiet
    rw [closeConsumer_of_answer hc hclose, Shared.tell_eq]
    dsimp only
    rw [hclose]
    exact (htold.trans (.of_eq hquiet)).trans (Shared.told_complained (fun _ => rfl) w₁ result)

end Consumer

section Stop

variable [LogProducer P] [LogConsumer C]

def mishapsOfStop (s : Checkpointer F P C D) (w : Shared) : List Mishap :=
  match s.isStopped with
  | true => []
  | false =>
    let s₁ := { s with phase := .stopped }
    s₁.mishapsOfProducerClose w ++
      (closeProducer s₁ w).1.2.mishapsOfConsumerClose (closeProducer s₁ w).2

theorem told_stop [LogProducer.Quiet P] [LogConsumer.Audited C] (s : Checkpointer F P C D)
    (w : Shared) : w.Told (stop s w).2 (s.mishapsOfStop w) := by
  rw [stop, Act.bind_of_eq (Act.get_apply s w), mishapsOfStop]
  cases s.isStopped with
  | true => exact .refl w
  | false => exact (told_closeProducer _ w).trans (told_closeConsumer _ _)

end Stop

/-! ## Restoring -/

section Restore

variable [LogConsumer C]

def mishapsOfSubscribe (s : Checkpointer F P C D) (w : Shared) : List Mishap :=
  match s.isStopped with
  | true => []
  | false => s.read.mishapsOfSubscribe s.topic (s.replayDepth w).1 w

def mishapsOfUnsubscribe (s : Checkpointer F P C D) (w : Shared) : List Mishap :=
  s.read.mishapsOfUnsubscribe s.topic w

variable [LogConsumer.Audited C]

theorem explained_subscribe (s : Checkpointer F P C D) (w : Shared) :
    w.Explained (subscribe s w).2
      (Incident.answered (subscribe s w).1.1 (s.mishapsOfSubscribe w)) := by
  rw [subscribe, Try.bind_of_ok (Try.get_apply s w), mishapsOfSubscribe]
  cases s.isStopped with
  | true => exact .refl w
  | false =>
    rw [if_neg Bool.false_ne_true]
    dsimp only
    rw [Try.bind_of_ok (Try.lift_of_eq (replayDepth_eq s w))]
    exact s.read.explained_subscribe s.topic (s.replayDepth w).1 w

theorem told_unsubscribe (s : Checkpointer F P C D) (w : Shared) :
    w.Told (unsubscribe s w).2 (s.mishapsOfUnsubscribe w) :=
  s.read.told_unsubscribe s.topic w

variable [LogProducer P] [Deserializer D] [Deserializer.Audited D]

/-- The ledger of a replay, of which whoever asked is answered this. -/
def incidentsOfReplay (answer : Except Error Unit) : Ledger (Checkpointer F P C D) := fun s w =>
  match s.read.consumer, s.read.deserializer with
  | some consumer, some deserializer =>
    Replay.Playback.incidents s.settings.pollTimeout s.settings.retryCount s.settings.halt answer
      { consumer, deserializer, write := some s.write } w
  | _, _ => []

def incidentsOfRestore (answer : Except Error Unit) : Ledger (Checkpointer F P C D) := fun s w =>
  match s.read.deserializer with
  | none => []
  | some _ =>
    Incident.answered answer (s.mishapsOfSubscribe w) ++
      match subscribe s w with
      | ((.error _, _), _) => []
      | ((.ok _, s₁), w₁) =>
        let w₂ := (Shared.tell (.loading s.topic) w₁).2
        s₁.incidentsOfReplay answer w₂ ++
          Incident.answered answer ((replay s₁ w₂).1.2.mishapsOfUnsubscribe (replay s₁ w₂).2)

variable [LogProducer.Quiet P]

theorem explained_replay (answer : Except Error Unit) (s : Checkpointer F P C D) (w : Shared)
    (hanswer : ∀ e, (replay s w).1.1 = .error e → answer = .error e) :
    w.Explained (replay s w).2 (s.incidentsOfReplay answer w) := by
  rw [incidentsOfReplay]
  rcases hread : s.read with ⟨_ | c, subscribed, _ | d⟩
  case some.some =>
    let q : Replay.Playback C D P := { consumer := c, deserializer := d, write := some s.write }
    have hexplained := Replay.Playback.explained_run s.settings.pollTimeout s.settings.retryCount
      s.settings.halt answer q w
    rcases hrun : Replay.Playback.run s.settings.pollTimeout s.settings.retryCount s.settings.halt
      q w with ⟨⟨result, q'⟩, w'⟩
    rw [hrun] at hexplained
    rw [replay_of_answer hread hrun] at hanswer ⊢
    refine hexplained fun cause hcause => hanswer _ ?_
    exact congrArg (Except.mapError Error.broker) hcause
  all_goals
    rw [replay, Try.bind_of_ok (Try.get_apply s w), hread]
    exact .refl w

theorem explained_restore (s : Checkpointer F P C D) (w : Shared) :
    w.Explained (restore s w).2
      (s.incidentsOfRestore ((restore s w).1.1.map fun _ => ()) w) := by
  rw [incidentsOfRestore]
  cases hd : s.read.deserializer with
  | none =>
    rw [restore_of_none hd w]
    exact .refl w
  | some d =>
    have hsubscribe := explained_subscribe s w
    rcases hjoin : subscribe s w with ⟨⟨e | ⟨⟩, s₁⟩, w₁⟩
    · rw [hjoin] at hsubscribe
      rw [restore_of_error hd hjoin]
      dsimp only
      rw [List.append_nil]
      exact hsubscribe
    · rw [hjoin] at hsubscribe
      let w₂ := (Shared.tell (.loading s.topic) w₁).2
      have htold : w₁.Told w₂ [] := Shared.told_quiet rfl w₁
      have hjoined := hsubscribe.told.trans htold
      rw [List.append_nil] at hjoined
      have hreplay := fun answer => explained_replay answer s₁ w₂
      rcases hrun : replay s₁ w₂ with ⟨⟨result, s₂⟩, w₃⟩
      have hunsubscribe := told_unsubscribe s₂ w₃
      rcases hleave : unsubscribe s₂ w₃ with ⟨⟨⟨⟩, s₃⟩, w₄⟩
      rw [hrun] at hreplay
      rw [hleave] at hunsubscribe
      have hall (answer : Except Error Unit)
          (hanswer : ∀ e, result = .error e → answer = .error e) :=
        (hjoined answer).trans ((hreplay answer hanswer).trans (hunsubscribe answer))
      rw [restore_of_steps hd hjoin hrun hleave]
      dsimp only
      rw [hrun]
      cases result with
      | error e => exact hall (.error e) fun _ he => congrArg _ (Except.error.inj he)
      | ok summary =>
        have hdone : w₄.Explained (w₄.concluded s.topic (.ok summary : Except Error _)) [] :=
          Shared.told_quiet rfl w₄ (.ok ())
        have hends := (hall (.ok ()) fun _ he => by cases he).trans hdone
        rw [List.append_nil] at hends
        exact hends

end Restore

/-! ## Commands -/

section Command

variable [LogProducer P]

def mishapsOfProducerDrop (s : Checkpointer F P C D) : List Mishap :=
  match s.write.producer with
  | none => []
  | some producer => LogProducer.mishapsOfDrop producer

def mishapsOfPublish (p : Position) (s : Checkpointer F P C D) (w : Shared) : List Mishap :=
  match s.isStopped with
  | true => []
  | false => s.write.mishaps p w

/-- A producer that is replaced is dropped. -/
theorem told_replaceProducer (producer : P) (s : Checkpointer F P C D) (w : Shared) :
    w.Told (replaceProducer producer s w).2 s.mishapsOfProducerDrop := by
  rw [replaceProducer, Act.bind_of_eq (Act.get_apply s w), mishapsOfProducerDrop]
  cases s.write.producer with
  | none => exact .refl w
  | some old => exact LogProducer.told_drop old w

theorem explained_publish [LogProducer.Quiet P] (p : Position) (s : Checkpointer F P C D)
    (w : Shared) :
    w.Explained (publish p s w).2
      (Incident.answered (publish p s w).1.1 (s.mishapsOfPublish p w)) := by
  rw [publish, Try.bind_of_ok (Try.get_apply s w), mishapsOfPublish]
  cases s.isStopped with
  | true => exact .refl w
  | false => exact WritePath.explained_publish p s.write w

variable [ClientFactory F P C] [LogConsumer C] [LogConsumer.Audited C] [Deserializer D]
  [Deserializer.Audited D]

/-- The ledger of a command.  Its owner is answered for all that goes wrong, except with what the
deserializer publishes meanwhile. -/
def Command.incidents (c : Command P C D) : Ledger (Checkpointer F P C D) := fun s w =>
  let answer := (c.run s w).1.1
  match c with
  | useProducer _ => Incident.answered answer s.mishapsOfProducerDrop
  | init => Incident.answered answer (s.mishapsOfInit w)
  | publish p => Incident.answered answer (s.mishapsOfPublish p w)
  | subscribe => Incident.answered answer (s.mishapsOfSubscribe w)
  | unsubscribe => Incident.answered answer (s.mishapsOfUnsubscribe w)
  | restore => s.incidentsOfRestore answer w
  | stop => Incident.answered answer (s.mishapsOfStop w)
  | useConsumer _ | setAdapter _ | setPollTimeout _ | start | clearLosses => []

variable [ClientFactory.Quiet F] [LogProducer.Quiet P]

theorem Command.explained (c : Command P C D) :
    (c.run : Act (Checkpointer F P C D) _).Explained c.incidents := by
  intro s w
  cases c with
  | useProducer producer => exact told_replaceProducer producer s w (.ok ())
  | init => exact told_init s w (Checkpointer.init s w).1.1
  | publish p => exact explained_publish p s w
  | subscribe => exact explained_subscribe s w
  | unsubscribe => exact told_unsubscribe s w (.ok ())
  | restore => exact explained_restore s w
  | stop => exact told_stop s w (.ok ())
  | useConsumer consumer => exact .refl w
  | setAdapter a => exact .refl w
  | clearLosses => exact .of_eq rfl
  | setPollTimeout timeout =>
    apply Shared.Explained.of_eq
    change (Checkpointer.setPollTimeout timeout s w).2.alarms = w.alarms
    rw [Checkpointer.setPollTimeout, Try.bind_of_ok (Try.get_apply s w)]
    cases s.settings.withPollTimeout timeout <;> rfl
  | start =>
    have htold := Shared.told_quiet (n := .starting s.topic) rfl w (.ok ())
    obtain ⟨settings, factory, _ | _ | _ | _, write, read⟩ := s
    · exact .refl w
    · exact htold
    · exact htold
    · exact .refl w

end Command

end Checkpointer

end PositionLog
