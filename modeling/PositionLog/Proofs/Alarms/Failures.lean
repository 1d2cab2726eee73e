import PositionLog.Proofs.Alarms.Overheard
import PositionLog.Proofs.Alarms.Site

/-!
# The journal leaves nothing out

The clients of all checkpointers and writers are overheard.  They are heard to fail at what the
journal lists, one for one and in order: an answer that nobody looked at would be heard, but not be
listed.  So the alarms can be compared with what was heard as well, and for that no journal is
needed.
-/

namespace PositionLog

namespace ReadPath

variable {number : BrokerError → Nat} {C D : Type} [LogConsumer C]

theorem noted_subscribe (topic : String) (depth : Nat) (s : ReadPath (Overheard number C) D)
    (w : Shared) :
    w.Noted number (subscribe topic depth s w).2 (s.mishapsOfSubscribe topic depth w) := by
  obtain ⟨_ | c, _ | _, d⟩ := s
  · exact .refl w
  · exact .refl w
  · let listener : Option Listener := if 1 ≤ depth then some (.rewind ⟨depth⟩) else none
    let w₁ := (Shared.tell (.subscribing topic depth) w).2
    rcases hjoin : (LogConsumer.subscribe topic listener : Request (Overheard number C) Unit) c w₁
      with ⟨⟨result, c'⟩, w'⟩
    have hjoined : w₁.Noted number w' (Mishap.ofAnswer .subscribe result) :=
      Overheard.noted_ask (fun _ => rfl) hjoin
    rw [mishapsOfSubscribe_of_answer hjoin, subscribe_of_answer hjoin]
    exact hjoined
  · exact .refl w

theorem noted_unsubscribe (topic : String) (s : ReadPath (Overheard number C) D) (w : Shared) :
    w.Noted number (unsubscribe topic s w).2 (s.mishapsOfUnsubscribe topic w) := by
  obtain ⟨_ | c, subscribed, d⟩ := s
  · exact .refl w
  · rcases hleave : (LogConsumer.unsubscribe : Request (Overheard number C) Unit) c w with
      ⟨⟨result, c'⟩, w'⟩
    have hleft : w.Noted number w' (Mishap.ofAnswer (.unsubscribe topic) result) :=
      Overheard.noted_ask (fun _ => rfl) hleave
    rw [mishapsOfUnsubscribe_of_answer topic subscribed d hleave,
      unsubscribe_of_answer topic subscribed d hleave]
    exact hleft.complained _ result

end ReadPath

theorem Replay.Playback.recorded_run {number : BrokerError → Nat} {C D P : Type} [LogConsumer C]
    [LogConsumer.Audited C] [LogProducer P] [Deserializer D] [Deserializer.Audited D]
    [Deserializer.Unheard D] (timeout retries : Nat) (halt : HaltScope)
    (answer : Except Error Unit) (s : Playback (Overheard number C) D (Overheard number P))
    (w : Shared) :
    w.Recorded number (run timeout retries halt s w).2
      (incidents timeout retries halt answer s w) := by
  rw [run_apply]
  have hpoll : Act.Notes (Shared.Recorded number)
      (poll timeout : Request (Playback (Overheard number C) D (Overheard number P)) _).run
      ((poll timeout : Request _ _).run.watch (incidentsOfPoll timeout answer)) := fun s _ w =>
    ⟨incidentsOfPoll timeout answer s w, rfl,
      (LogConsumer.noted_poll timeout s.consumer w).recorded answer⟩
  have htake (key value : Bytes) : Act.Notes (Shared.Recorded number)
      (take key value : Act (Playback (Overheard number C) D (Overheard number P)) Bool)
      ((take key value).watch (incidentsOfTake key value)) := fun s _ w =>
    ⟨incidentsOfTake key value s w, rfl,
      Deserializer.Unheard.deserialize number key value s.toIntake w⟩
  have hnotes := ((Act.congruence_notes (Shared.addsUp_recorded number)).run BrokerError).drain
    hpoll htake retries halt (s.rounds w) {}
  exact hnotes.noted s w

namespace Checkpointer

variable {number : BrokerError → Nat} {F P C D : Type}

/-! ## Beginning -/

section Init

variable [ClientFactory F P C]
  (s : Checkpointer (Overheard number F) (Overheard number P) (Overheard number C) D) (w : Shared)

theorem noted_createConsumer :
    w.Noted number (createConsumer s w).2 (s.mishapsOfConsumer w) := by
  rw [mishapsOfConsumer]
  cases hc : s.read.consumer with
  | some c =>
    rw [createConsumer_of_some hc w]
    exact .refl w
  | none =>
    rcases hcreate : (ClientFactory.createConsumer s.settings.consumer :
      Request (Overheard number F) (Overheard number C)) s.factory w with ⟨⟨result, factory⟩, w'⟩
    have hnoted : w.Noted number w' (Mishap.ofAnswer (.create .consumer) result) :=
      Overheard.noted_map_ask (fun _ => rfl) hcreate
    cases result with
    | ok consumer =>
      rw [createConsumer_of_ok hc hcreate]
      exact hnoted
    | error cause =>
      rw [createConsumer_of_error hc hcreate]
      exact hnoted

theorem noted_createProducer :
    w.Noted number (createProducer s w).2 (s.mishapsOfProducer w) := by
  rw [mishapsOfProducer]
  cases hp : s.write.producer with
  | some producer =>
    rw [createProducer_of_some hp w]
    exact .refl w
  | none =>
    rcases hcreate : (ClientFactory.createProducer s.settings.producer :
      Request (Overheard number F) (Overheard number P)) s.factory w with ⟨⟨result, factory⟩, w'⟩
    have hnoted : w.Noted number w' (Mishap.ofAnswer (.create .producer) result) :=
      Overheard.noted_map_ask (fun _ => rfl) hcreate
    cases result with
    | ok producer =>
      rw [createProducer_of_ok hp hcreate]
      exact hnoted
    | error cause =>
      rw [createProducer_of_error hp hcreate]
      exact hnoted

theorem noted_init : w.Noted number (init s w).2 (s.mishapsOfInit w) := by
  rw [mishapsOfInit]
  cases hstopped : s.isStopped with
  | true =>
    rw [init_of_stopped hstopped w]
    exact .refl w
  | false =>
    let w₀ := w.withNotices (w.notices.push (.initializing s.topic))
    have hconsumer := noted_createConsumer s w₀
    rcases hfirst : createConsumer s w₀ with ⟨⟨first, s₁⟩, w₁⟩
    rw [hfirst] at hconsumer
    have hproducer := noted_createProducer s₁ w₁
    rcases hsecond : createProducer s₁ w₁ with ⟨⟨second, s₂⟩, w₂⟩
    rw [hsecond] at hproducer
    have hall : w.Noted number w₂ _ := hconsumer.trans hproducer
    rw [init_of_answers hstopped hfirst hsecond, Shared.tell_eq]
    dsimp only
    rw [hfirst]
    cases first.or second with
    | none => exact hall
    | some e => exact hall

end Init

/-! ## Ending -/

section Stop

theorem noted_closeProducer [LogProducer P]
    (s : Checkpointer F (Overheard number P) C D) (w : Shared) :
    w.Noted number (closeProducer s w).2 (s.mishapsOfProducerClose w) := by
  rw [mishapsOfProducerClose]
  cases hp : s.write.producer with
  | none =>
    rw [closeProducer_of_none hp w]
    exact .refl w
  | some producer =>
    let w₀ := w.withNotices (w.notices.push (.closing .producer))
    rcases hclose : (LogProducer.close : Request (Overheard number P) Unit) producer w₀ with
      ⟨⟨result, producer'⟩, w₁⟩
    have hclosed : w₀.Noted number w₁ (Mishap.ofAnswer (.close .producer) result) :=
      Overheard.noted_ask (fun _ => rfl) hclose
    rw [closeProducer_of_answer hp hclose, Shared.tell_eq]
    dsimp only
    rw [hclose]
    exact (hclosed.complained _ result).trans (Shared.noted_drop producer' _)

theorem noted_closeConsumer [LogConsumer C]
    (s : Checkpointer F P (Overheard number C) D) (w : Shared) :
    w.Noted number (closeConsumer s w).2 (s.mishapsOfConsumerClose w) := by
  rw [mishapsOfConsumerClose]
  cases hc : s.read.consumer with
  | none =>
    rw [closeConsumer_of_none hc w]
    exact .refl w
  | some consumer =>
    let w₀ := w.withNotices (w.notices.push (.closing .consumer))
    rcases hclose : (LogConsumer.close : Request (Overheard number C) Unit) consumer w₀ with
      ⟨⟨result, consumer'⟩, w₁⟩
    have hclosed : w₀.Noted number w₁ (Mishap.ofAnswer (.close .consumer) result) :=
      Overheard.noted_ask (fun _ => rfl) hclose
    rw [closeConsumer_of_answer hc hclose, Shared.tell_eq]
    dsimp only
    rw [hclose]
    exact hclosed.complained _ result

theorem noted_stop [LogProducer P] [LogConsumer C]
    (s : Checkpointer F (Overheard number P) (Overheard number C) D) (w : Shared) :
    w.Noted number (stop s w).2 (s.mishapsOfStop w) := by
  rw [stop, Act.bind_of_eq (Act.get_apply s w), mishapsOfStop]
  cases s.isStopped with
  | true => exact .refl w
  | false => exact (noted_closeProducer _ w).trans (noted_closeConsumer _ _)

theorem noted_retire [LogProducer P] [LogConsumer C]
    (s : Checkpointer F (Overheard number P) (Overheard number C) D) (w : Shared) :
    w.Noted number (retire s w).2 (s.mishapsOfRetire w) := by
  have hstopped := noted_stop s w
  rcases hstop : stop s w with ⟨⟨⟨⟩, s₁⟩, w₁⟩
  rw [hstop] at hstopped
  rw [retire, Act.bind_of_eq hstop, Act.bind_of_eq (Act.get_apply s₁ w₁), mishapsOfRetire, hstop]
  refine hstopped.trans ?_
  dsimp only
  rw [mishapsOfProducerDrop]
  cases s₁.write.producer with
  | none => exact .refl w₁
  | some producer => exact Shared.noted_drop producer w₁

end Stop

/-! ## Reading back -/

section Restore

variable [LogConsumer C]

theorem noted_subscribe (s : Checkpointer F P (Overheard number C) D) (w : Shared) :
    w.Noted number (subscribe s w).2 (s.mishapsOfSubscribe w) := by
  rw [mishapsOfSubscribe]
  cases hstopped : s.isStopped with
  | true =>
    rw [subscribe_of_stopped hstopped w]
    exact .refl w
  | false =>
    rw [subscribe, Try.bind_of_ok (Try.get_apply s w), hstopped, if_neg Bool.false_ne_true]
    dsimp only
    rw [Try.bind_of_ok (Try.lift_of_eq (replayDepth_eq s w))]
    exact s.read.noted_subscribe s.topic (s.replayDepth w).1 w

theorem noted_unsubscribe (s : Checkpointer F P (Overheard number C) D) (w : Shared) :
    w.Noted number (unsubscribe s w).2 (s.mishapsOfUnsubscribe w) :=
  s.read.noted_unsubscribe s.topic w

variable [LogConsumer.Audited C] [LogProducer P] [Deserializer D] [Deserializer.Audited D]
  [Deserializer.Unheard D]

theorem recorded_replay (answer : Except Error Unit)
    (s : Checkpointer F (Overheard number P) (Overheard number C) D) (w : Shared) :
    w.Recorded number (replay s w).2 (s.incidentsOfReplay answer w) := by
  rw [incidentsOfReplay]
  rcases hread : s.read with ⟨_ | c, subscribed, _ | d⟩
  case some.some =>
    let q : Replay.Playback (Overheard number C) D (Overheard number P) :=
      { consumer := c, deserializer := d, write := some s.write }
    have hrecorded := Replay.Playback.recorded_run s.settings.pollTimeout s.settings.retryCount
      s.settings.halt answer q w
    rcases hrun : Replay.Playback.run s.settings.pollTimeout s.settings.retryCount s.settings.halt
      q w with ⟨⟨result, q'⟩, w'⟩
    rw [hrun] at hrecorded
    rw [replay_of_answer hread hrun]
    exact hrecorded
  all_goals
    rw [replay, Try.bind_of_ok (Try.get_apply s w), hread]
    exact .refl w

theorem recorded_restore (answer : Except Error Unit)
    (s : Checkpointer F (Overheard number P) (Overheard number C) D) (w : Shared) :
    w.Recorded number (restore s w).2 (s.incidentsOfRestore answer w) := by
  have hR := Shared.addsUp_recorded number
  rw [incidentsOfRestore]
  cases hd : s.read.deserializer with
  | none =>
    rw [restore_of_none hd w]
    exact .refl w
  | some d =>
    have hjoined := (s.noted_subscribe w).recorded answer
    rcases hjoin : subscribe s w with ⟨⟨e | ⟨⟩, s₁⟩, w₁⟩
    · rw [hjoin] at hjoined
      dsimp only
      rw [restore_of_error hd hjoin, List.append_nil]
      exact hjoined
    · rw [hjoin] at hjoined
      let w₂ := (Shared.tell (.loading s.topic) w₁).2
      have hread : w₁.Recorded number (replay s₁ w₂).2 _ := s₁.recorded_replay answer w₂
      rcases hrun : replay s₁ w₂ with ⟨⟨result, s₂⟩, w₃⟩
      have hleft := (s₂.noted_unsubscribe w₃).recorded answer
      rcases hleave : unsubscribe s₂ w₃ with ⟨⟨⟨⟩, s₃⟩, w₄⟩
      rw [hrun] at hread
      rw [hleave] at hleft
      have hall := hR.trans hjoined (hR.trans hread hleft)
      rw [restore_of_steps hd hjoin hrun hleave]
      dsimp only
      rw [hrun]
      cases result with
      | error e => exact hall
      | ok summary => exact hall

end Restore

/-! ## Commands -/

section Command

variable [LogProducer P]

theorem noted_replaceProducer (producer : Overheard number P)
    (s : Checkpointer F (Overheard number P) C D) (w : Shared) :
    w.Noted number (replaceProducer producer s w).2 s.mishapsOfProducerDrop := by
  rw [replaceProducer, Act.bind_of_eq (Act.get_apply s w), mishapsOfProducerDrop]
  cases s.write.producer with
  | none => exact .refl w
  | some old => exact Shared.noted_drop old w

theorem noted_publish (p : Position) (s : Checkpointer F (Overheard number P) C D)
    (w : Shared) : w.Noted number (publish p s w).2 (s.mishapsOfPublish p w) := by
  rw [publish, Try.bind_of_ok (Try.get_apply s w), mishapsOfPublish]
  cases s.isStopped with
  | true => exact .refl w
  | false => exact WritePath.noted_publish p s.write w

variable [ClientFactory F P C] [LogConsumer C] [LogConsumer.Audited C] [Deserializer D]
  [Deserializer.Audited D] [Deserializer.Unheard D]

/-- Whatever a checkpointer is told to do, its clients are heard to fail at what the ledger
lists. -/
theorem Command.recorded (c : Command (Overheard number P) (Overheard number C) D) :
    (c.run : Act (Checkpointer (Overheard number F) _ _ D) _).Accounts (Shared.Recorded number)
      c.incidents := by
  intro s w
  cases c with
  | useProducer producer => exact (noted_replaceProducer producer s w).recorded _
  | init => exact (noted_init s w).recorded _
  | publish p => exact (noted_publish p s w).recorded _
  | subscribe => exact (noted_subscribe s w).recorded _
  | unsubscribe => exact (noted_unsubscribe s w).recorded _
  | restore => exact recorded_restore _ s w
  | stop => exact (noted_stop s w).recorded _
  | useConsumer consumer => exact .refl w
  | setAdapter a => exact .refl w
  | clearLosses => exact .of_eq rfl
  | setPollTimeout timeout =>
    apply Shared.Noted.of_eq
    change (Checkpointer.setPollTimeout timeout s w).2.failures = w.failures
    rw [Checkpointer.setPollTimeout, Try.bind_of_ok (Try.get_apply s w)]
    cases s.settings.withPollTimeout timeout <;> rfl
  | start =>
    obtain ⟨settings, factory, _ | _ | _ | _, write, read⟩ := s
    · exact .refl w
    · exact .of_eq rfl
    · exact .of_eq rfl
    · exact .refl w

end Command

end Checkpointer

/-! ## Notes, journals and alarms -/

/-- What an alarm tells to have failed, if it is a deed of a client. -/
def Notice.failure? (number : BrokerError → Nat) : Notice → Option Failure
  | creationFailed role cause => some (number cause, .create role)
  | sendRefused topic cause => some (number cause, .send topic)
  | unsubscribeSkipped _ => some (number .closed, .unsubscribe)
  | unsubscribeFailed _ cause => some (number cause, .unsubscribe)
  | closeFailed role cause => some (number cause, .close role)
  | _ => none

/-- Whether there is an alarm about a failure.  If not, whoever asked is answered with it. -/
def Failure.isTold (number : BrokerError → Nat) : Failure → Bool
  | (_, .subscribe) | (_, .poll) => false
  | (n, .send _) => n ≠ number .closed
  | (_, .create _) | (_, .unsubscribe) | (_, .close _) => true

/-- Of each mishap the alarm tells what the note does, if there is an alarm about it. -/
theorem Mishap.bind_alarm? {number : BrokerError → Nat}
    (hnumber : ∀ cause, number cause = number .closed → cause = .closed) (m : Mishap) :
    m.alarm?.bind (Notice.failure? number) =
      (m.failure? number).filter (Failure.isTold number) := by
  cases m with
  | send topic cause =>
    by_cases hclosed : cause = .closed
    · subst hclosed
      simp [alarm?, failure?, deed?, Mishap.cause, Failure.isTold, Option.filter]
    · have hother : number cause ≠ number .closed := fun h => hclosed (hnumber cause h)
      have halarm : (send topic cause).alarm? = some (.sendRefused topic cause) := by
        cases cause with
        | closed => exact absurd rfl hclosed
        | _ => rfl
      simp [halarm, Notice.failure?, failure?, deed?, Mishap.cause, Failure.isTold, hother,
        Option.filter]
  | unsubscribe topic cause => cases cause <;> rfl
  | _ => rfl

namespace Site

variable {number : BrokerError → Nat} {F P C D : Type}

/-- Nobody else is heard to fail at anything, whether or not it has a client. -/
def Event.Unheard : Event F P C D → Prop
  | useProducer x _ _ => ∀ producer w, (x producer w).2.failures = w.failures
  | useConsumer x _ _ => ∀ consumer w, (x consumer w).2.failures = w.failures
  | elsewhere x _ => ∀ w, (x w).2.failures = w.failures
  | create .. | command .. | retire _ | addProducer _ | dropProducer _ | append .. | poll ..
  | report .. => True

variable [ClientFactory F P C] [LogProducer P] [LogConsumer C] [LogConsumer.Audited C]
  [Deserializer D] [Deserializer.Audited D] [Deserializer.Unheard D]

theorem Event.recorded
    {e : Event (Overheard number F) (Overheard number P) (Overheard number C) D}
    (h : e.Unheard) : e.run.Accounts (Shared.Recorded number) e.incidents := by
  have hR := Shared.addsUp_recorded number
  cases e with
  | create settings factory => exact fun s w => .of_eq rfl
  | command who c => exact accounts_onCheckpointer hR c.recorded who
  | retire who =>
    exact accounts_onCheckpointer hR (fun k w => (k.noted_retire w).recorded _) who
  | addProducer producer => exact fun s w => .of_eq rfl
  | dropProducer who =>
    have hdropped : (do LogProducer.drop (← get) : Act (Overheard number P) Unit).Accounts
        (Shared.Recorded number) fun producer _ =>
          Incident.answered (.ok ()) (LogProducer.mishapsOfDrop producer) :=
      fun producer w => (Shared.noted_drop producer w).recorded _
    exact accounts_onProducer hR hdropped (.free who)
  | append x key value place =>
    have happended : (x.append key value : Request (Overheard number P) Unit).run.Accounts
        (Shared.Recorded number) (x.incidents key value) :=
      fun producer w => (x.noted_append key value producer w).recorded _
    exact accounts_onProducer hR happended place
  | poll timeout who =>
    have hpolled : (LogConsumer.poll timeout :
        Request (Overheard number C) (List Record)).run.Accounts (Shared.Recorded number)
          (LogConsumer.incidentsOfPoll timeout) :=
      fun consumer w => (LogConsumer.noted_poll timeout consumer w).recorded _
    exact accounts_onCheckpointer hR ((hR.onSome hpolled).on _ _) who
  | useProducer x quiet place =>
    exact mute_onProducer hR (fun producer w => .of_eq (h producer w)) place
  | useConsumer x quiet who =>
    exact mute_onConsumer hR (fun consumer w => .of_eq (h consumer w)) who
  | report ticket r =>
    intro s w
    change w.Recorded number (Shared.deliver ticket r w).2 _
    rw [Shared.deliver_apply, incidents]
    dsimp only
    cases w.pending[ticket]? with
    | none => exact .of_eq rfl
    | some t =>
      have hsettled : (Shared.withdraw ticket w).2.Noted number _ _ := Shared.noted_settle t r _
      exact hsettled.recorded (.ok ())
  | elsewhere x quiet => exact fun s w => .of_eq (h w)

/-- Whatever happens, the journal lists what clients are heard to fail at, one for one and in order,
and no other deeds of theirs. -/
theorem failures_match_journal
    {es : List (Event (Overheard number F) (Overheard number P) (Overheard number C) D)}
    (h : ∀ e ∈ es, e.Unheard)
    (s : Site (Overheard number F) (Overheard number P) (Overheard number C) D) (w : Shared) :
    (runAll es s w).2.failures =
      w.failures ++ ((journal es s w).map Incident.mishap).filterMap (Mishap.failure? number) :=
  accounts_runAll (Shared.addsUp_recorded number) (fun e he => Event.recorded (h e he)) s w

/-- So of what clients are heard to fail at there are alarms, one for each and in order, unless it
is that a closed producer is to send, or that a consumer cannot subscribe or be polled.  The causes
are the same, as long as that a producer is closed can be told from other causes. -/
theorem alarms_match_failures [ClientFactory.Quiet F] [LogProducer.Quiet P]
    (hnumber : ∀ cause, number cause = number .closed → cause = .closed)
    {es : List (Event (Overheard number F) (Overheard number P) (Overheard number C) D)}
    (h : ∀ e ∈ es, e.Unheard)
    (s : Site (Overheard number F) (Overheard number P) (Overheard number C) D) {w : Shared}
    (hw : w.alarms.filterMap (Notice.failure? number) =
      w.failures.filter (Failure.isTold number)) :
    let w' := (runAll es s w).2
    w'.alarms.filterMap (Notice.failure? number) =
      w'.failures.filter (Failure.isTold number) := by
  intro w'
  have halarms := (explained_runAll es s w).accounted
  have hfailures := failures_match_journal h s w
  rw [Shared.Accounted] at halarms
  rw [halarms, hfailures, List.filterMap_append, List.filter_append, hw, List.filterMap_filterMap,
    List.filter_filterMap]
  exact congrArg _ (List.filterMap_congr fun m _ => m.bind_alarm? hnumber)

/-- Neither client can be created, for different causes. -/
example :
    let number : BrokerError → Nat := fun cause => if cause = .closed then 0 else 1
    let factory : Overheard number Scripted.Factory :=
      ⟨{ party := 0, producers := [.error (.kafka "p")], consumers := [.error .closed] }⟩
    let es : List (Event _ (Overheard number Scripted.Producer) (Overheard number Scripted.Consumer)
      Loader) := [.create ⟨"t", 1, 1, .batch, {}, {}⟩ factory, .command 0 .init]
    (runAll es {} {}).2.failures = [(0, .create .consumer), (1, .create .producer)] := by
  decide +kernel

end Site

end PositionLog
