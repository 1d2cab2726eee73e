import PositionLog.Proofs.Checkpointer.Lifetime
import PositionLog.Proofs.Checkpointer.Watched

/-!
# How restoring ends

Restoring fails before it asks the consumer for anything, or because the consumer cannot join the
topic; or else the topic is replayed and left, whatever comes of either.  So the checkpointer is not
subscribed afterwards, unless it had no deserializer and left everything as it was.
-/

namespace PositionLog.Checkpointer

open Replay (Playback)

variable {F P C D : Type}

/-! ## Who is subscribed -/

section Attached

variable {s : Checkpointer F P C D}

theorem Attached.not_subscribed (h : s.Attached) (hc : s.read.consumer = none) :
    s.isSubscribed = false := by
  rw [Bool.eq_false_iff]
  intro hs
  have hsome := (h hs).1
  rw [hc] at hsome
  cases hsome

theorem Attached.not_subscribed_of_stopped (h : s.Attached) (hstopped : s.isStopped = true) :
    s.isSubscribed = false := by
  rw [Bool.eq_false_iff]
  intro hs
  rw [(h hs).2] at hstopped
  cases hstopped

theorem attached_finishInit (h : s.Attached) : (finishInit s).Attached := by
  unfold finishInit
  split
  · exact fun hs => ⟨(h hs).1, rfl⟩
  · exact h

theorem attached_start (h : s.Attached) (w : Shared) : (start s w).1.2.Attached := by
  obtain ⟨settings, factory, _ | _ | _ | _, write, read⟩ := s
  · exact h
  · exact fun hs => ⟨(h hs).1, rfl⟩
  · exact fun hs => ⟨(h hs).1, rfl⟩
  · exact h

theorem attached_init [ClientFactory F P C] (h : s.Attached) (w : Shared) :
    (init s w).1.2.Attached := by
  rcases init_cases s w with ⟨e, s', w', hinit, hsteady⟩ | ⟨s', w', hinit, hsteady, -, -⟩
  · rw [hinit]
    exact hsteady.attached h
  · rw [hinit]
    exact attached_finishInit (hsteady.attached h)

variable [LogProducer P] [LogConsumer C]

theorem attached_stop (h : s.Attached) (w : Shared) : (stop s w).1.2.Attached := by
  rcases (stop_spec s w).2 with hsame | hread
  · rw [hsame]
    exact h
  · intro hs
    exact absurd (hread.symm.trans hs) Bool.false_ne_true

variable [Deserializer D]

/-- A replay ends with the consumer that it began with, and leaves the topic to the checkpointer. -/
theorem attached_replay : Act.Keeps Attached
    (replay : Operation (Checkpointer F P C D) Replay.Summary).run := by
  intro s w h
  rw [Try.run_apply]
  rcases replay_cases s w with ⟨e, hreplay⟩ | ⟨c, subscribed, d, result, q, w', hread, -, hreplay⟩
  · rw [hreplay]
    exact h
  · rw [hreplay]
    intro hs
    have hsubscribed : s.isSubscribed = true := by rwa [isSubscribed, hread]
    exact ⟨rfl, (h hsubscribed).2⟩

theorem attached_restore : Act.Keeps Attached
    (restore : Operation (Checkpointer F P C D) Replay.Summary).run :=
  (Act.closed_keeps Attached).restore (fun _ _ h => h)
    (fun s w h => (steadily_subscribe s w).attached h) attached_replay
    fun s w h => (steadily_unsubscribe s w).attached h

variable [ClientFactory F P C]

theorem Event.run_attached (h : s.Attached) (e : Event P C D) (w : Shared) :
    (e.run s w).1.2.Attached := by
  cases e with
  | command c =>
    cases c with
    | useProducer producer => exact (steady_replaceProducer s w producer).attached h
    | useConsumer consumer => exact fun hs => ⟨rfl, (h hs).2⟩
    | setAdapter a => exact h
    | setPollTimeout timeout => exact (steady_setPollTimeout s w timeout).attached h
    | init => exact attached_init h w
    | start => exact attached_start h w
    | publish p => exact (steadily_publish p s w).attached h
    | subscribe => exact (steadily_subscribe s w).attached h
    | unsubscribe => exact (steadily_unsubscribe s w).attached h
    | restore => exact attached_restore s w h
    | clearLosses => exact h
    | stop => exact attached_stop h w
  | producer x => exact (steady_onProducer s w x).attached h
  | consumer x => exact (steady_onConsumer s w x).attached h
  | elsewhere x => exact h

/-- A checkpointer stays attached, whatever happens to it. -/
theorem runAll_attached (h : s.Attached) (es : List (Event P C D)) (w : Shared) :
    (runAll es s w).1.2.Attached := by
  induction es generalizing s w with
  | nil => exact h
  | cons e es ih => exact ih (Event.run_attached h e w) _

end Attached

/-! ## The ways in which restoring ends -/

section Restore

variable [LogConsumer C] {s : Checkpointer F P C D} {c c₁ : C} {d : D} {w w₁ : Shared}

theorem not_subscribed_of_refused {cause : BrokerError}
    (hjoin : s.joining c w = ((.error cause, c₁), w₁)) : s.isSubscribed = false := by
  cases hs : s.isSubscribed with
  | true =>
    rw [joining, hs] at hjoin
    cases hjoin
  | false => rfl

variable [LogProducer P] [Deserializer D] (hd : s.read.deserializer = some d)
include hd

theorem restore_of_stopped (h : s.isStopped = true) (w : Shared) :
    restore s w = ((.error .stopped, s), w) :=
  restore_of_error hd (subscribe_of_stopped h w)

theorem restore_of_absent (h : s.isStopped = false) (hs : s.isSubscribed = false)
    (hc : s.read.consumer = none) (w : Shared) : restore s w = ((.error .notInitialized, s), w) :=
  restore_of_error hd (subscribe_of_none h hs hc w)

variable (h : s.isStopped = false) (hc : s.read.consumer = some c)
include h hc

/-- The topic cannot be joined. -/
theorem restore_of_refused {cause : BrokerError}
    (hjoin : s.joining c w = ((.error cause, c₁), w₁)) :
    restore s w = ((.error (.broker cause), s.setConsumer (some c₁)), w₁) := by
  have hsubscribed : s.read.subscribed = false := not_subscribed_of_refused hjoin
  have hset : s.setConsumer (some c₁) = { s with
      read := ⟨some c₁, false, s.read.deserializer⟩ } := by
    rw [setConsumer, ← hsubscribed]
  rw [hset]
  exact restore_of_error hd (subscribe_of_joining h hc hjoin)

/-- The topic is joined, replayed and left. -/
theorem restore_of_joined (hjoin : s.joining c w = ((.ok (), c₁), w₁))
    {result : Except BrokerError Replay.Summary} {q : Playback C D P} {w₂ w₃ : Shared} {c' : C}
    {answer : Except BrokerError Unit}
    (hrun : Playback.run s.settings.pollTimeout s.settings.retryCount s.settings.halt
      { consumer := c₁, deserializer := d, write := some s.write }
      (w₁.withNotices (w₁.notices.push (.loading s.topic))) = ((result, q), w₂))
    (hleave : (LogConsumer.unsubscribe q.consumer : StateM Shared _) w₂ = ((answer, c'), w₃)) :
    restore s w = ((result.mapError .broker, { s with
        write := q.write.getD s.write
        read := ⟨some c', false, some q.deserializer⟩ }),
      (w₃.complained (ReadPath.complaint s.topic) answer).concluded s.topic result) := by
  have hsubscribe := subscribe_of_joining h hc hjoin
  rw [hd] at hsubscribe
  have hrestore := restore_of_ok hd hsubscribe rfl hrun hleave
  exact hrestore

end Restore

section Watched

variable [LogProducer P] [LogConsumer C] [Deserializer D] {s : Checkpointer F P (Watched C) D}

/-- That the calls are noted changes nothing. -/
theorem restore_unwatched (h : s.Attached) (w : Shared) :
    restore s.unwatched w =
      (((restore s w).1.1, (restore s w).1.2.unwatched), (restore s w).2) := by
  cases hd : s.read.deserializer with
  | none =>
    rw [restore_of_none hd w]
    exact restore_of_none (s := s.unwatched) hd w
  | some d =>
    cases hstopped : s.isStopped with
    | true =>
      rw [restore_of_stopped hd hstopped w]
      exact restore_of_stopped (s := s.unwatched) hd hstopped w
    | false =>
      cases hc : s.read.consumer with
      | none =>
        have hs := h.not_subscribed hc
        have hc' : s.unwatched.read.consumer = none := congrArg (Option.map _) hc
        rw [restore_of_absent hd hstopped hs hc w]
        exact restore_of_absent (s := s.unwatched) hd hstopped hs hc' w
      | some c =>
        have hc' : s.unwatched.read.consumer = some c.consumer := congrArg (Option.map _) hc
        have hjoin' := joining_unwatched s c w
        rcases hjoin : s.joining c w with ⟨⟨result, c₁⟩, w₁⟩
        rw [hjoin] at hjoin'
        cases result with
        | error cause =>
          rw [restore_of_refused hd hstopped hc hjoin]
          exact restore_of_refused (s := s.unwatched) hd hstopped hc' hjoin'
        | ok _ =>
          have hrun' := abstracts_run_unwatched s.settings.pollTimeout s.settings.retryCount
            s.settings.halt { consumer := c₁, deserializer := d, write := some s.write }
            (w₁.withNotices (w₁.notices.push (.loading s.topic)))
          rcases hrun : Playback.run s.settings.pollTimeout s.settings.retryCount s.settings.halt
            { consumer := c₁, deserializer := d, write := some s.write }
            (w₁.withNotices (w₁.notices.push (.loading s.topic))) with ⟨⟨result, q⟩, w₂⟩
          rw [Try.run_apply, Try.run_apply, hrun] at hrun'
          rcases hleave : (LogConsumer.unsubscribe q.consumer : StateM Shared _) w₂ with
            ⟨⟨answer, c'⟩, w₃⟩
          rw [restore_of_joined hd hstopped hc hjoin hrun hleave]
          exact restore_of_joined (s := s.unwatched) hd hstopped hc' hjoin' hrun'
            (Watched.ask_eq hleave).1

/-- With a consumer, restoring ends when the topic cannot be joined, or once it was left. -/
theorem restore_of_some {c : Watched C} {d : D} {w : Shared} (hd : s.read.deserializer = some d)
    (h : s.isStopped = false) (hc : s.read.consumer = some c) :
    let joined := s.joining c w
    let y := restore s w
    y.1.2.isSubscribed = false ∧
    (∀ cause, joined.1.1 = .error cause →
      y = ((.error (.broker cause), s.setConsumer (some joined.1.2)), joined.2)) ∧
    (joined.1.1 = .ok () →
      let replayed := Playback.run s.settings.pollTimeout s.settings.retryCount s.settings.halt
        { consumer := joined.1.2, deserializer := d, write := some s.write }
        (joined.2.withNotices (joined.2.notices.push (.loading s.topic)))
      y.1.1 = replayed.1.1.mapError .broker ∧
      ∃ (polls : List (Except BrokerError (List Record))) (answer : Except BrokerError Unit),
        y.1.2.read.consumer.map (·.calls) =
          some (joined.1.2.calls ++ polls.map .poll ++ [.unsubscribe answer])) := by
  intro joined y
  rcases hjoin : s.joining c w with ⟨⟨answer, c₁⟩, w₁⟩
  have hjoined : joined = ((answer, c₁), w₁) := hjoin
  rw [hjoined]
  cases answer with
  | error cause =>
    have hy : y = _ := restore_of_refused hd h hc hjoin
    rw [hy]
    refine ⟨not_subscribed_of_refused hjoin, fun cause' hcause => ?_, nofun⟩
    cases hcause
    rfl
  | ok _ =>
    have hpolls := pollsOnly_run s.settings.pollTimeout s.settings.retryCount s.settings.halt
      { consumer := c₁, deserializer := d, write := some s.write }
      (w₁.withNotices (w₁.notices.push (.loading s.topic)))
    rcases hrun : Playback.run s.settings.pollTimeout s.settings.retryCount s.settings.halt
      { consumer := c₁, deserializer := d, write := some s.write }
      (w₁.withNotices (w₁.notices.push (.loading s.topic))) with ⟨⟨result, q⟩, w₂⟩
    rcases hleave : (LogConsumer.unsubscribe q.consumer : StateM Shared _) w₂ with
      ⟨⟨answer, c'⟩, w₃⟩
    rw [hrun] at hpolls
    obtain ⟨polls, hcalls⟩ := hpolls
    have hy : y = _ := restore_of_joined hd h hc hjoin hrun hleave
    rw [hy]
    refine ⟨rfl, nofun, fun _ => ⟨?_, polls, answer, ?_⟩⟩
    · rfl
    · rw [Option.map_some, (Watched.ask_eq hleave).2, hcalls]

variable [ClientFactory F P (Watched C)]

/-- However a checkpointer got where it is, restoring it ends in one of these ways.  Without a
deserializer it fails and leaves everything as it was.  Otherwise the checkpointer is not subscribed
afterwards: it fails and leaves everything as it was if it has stopped, or has no consumer; it fails
if the consumer cannot join the topic, and nothing else is asked of the consumer; or else the topic
is replayed, and what comes of it is what the replay came to.  Then the consumer is polled, and at
last told to leave the topic, once and whatever it answers.  All this is the same if nobody watches
the consumer. -/
theorem restore_cleans_up (settings : Settings) (factory : F) (es : List (Event P (Watched C) D))
    (w₀ : Shared) :
    let created : Checkpointer F P (Watched C) D × Shared := create settings factory w₀
    let x := runAll es created.1 created.2
    let s := x.1.2
    let w := x.2
    let y := restore s w
    restore s.unwatched w = ((y.1.1, y.1.2.unwatched), y.2) ∧
    (s.read.deserializer = none → y = ((.error .notDeserializable, s), w)) ∧
    ∀ d, s.read.deserializer = some d →
      y.1.2.isSubscribed = false ∧
      (s.isStopped = true → y = ((.error .stopped, s), w)) ∧
      (s.isStopped = false → s.read.consumer = none → y = ((.error .notInitialized, s), w)) ∧
      ∀ c, s.isStopped = false → s.read.consumer = some c →
        let depth := (s.replayDepth w).1
        let joined := s.joining c w
        (joined.1.2.calls = c.calls ++
          if s.isSubscribed then []
          else [.subscribe s.topic (if 1 ≤ depth then some (.rewind ⟨depth⟩) else none)
            joined.1.1]) ∧
        (∀ cause, joined.1.1 = .error cause →
          y = ((.error (.broker cause), s.setConsumer (some joined.1.2)), joined.2)) ∧
        (joined.1.1 = .ok () →
          let replayed := Playback.run s.settings.pollTimeout s.settings.retryCount s.settings.halt
            { consumer := joined.1.2, deserializer := d, write := some s.write }
            (joined.2.withNotices (joined.2.notices.push (.loading s.topic)))
          y.1.1 = replayed.1.1.mapError .broker ∧
          ∃ (polls : List (Except BrokerError (List Record))) (answer : Except BrokerError Unit),
            y.1.2.read.consumer.map (·.calls) =
              some (joined.1.2.calls ++ polls.map .poll ++ [.unsubscribe answer])) := by
  intro created x s w y
  have hcreated : created.1.Attached := nofun
  have h : s.Attached := runAll_attached hcreated es created.2
  refine ⟨restore_unwatched h w, fun hd => restore_of_none hd w, fun d hd => ⟨?_, ?_, ?_, ?_⟩⟩
  · cases hstopped : s.isStopped with
    | true =>
      have hy : y = _ := restore_of_stopped hd hstopped w
      rw [hy]
      exact h.not_subscribed_of_stopped hstopped
    | false =>
      cases hc : s.read.consumer with
      | none =>
        have hy : y = _ := restore_of_absent hd hstopped (h.not_subscribed hc) hc w
        rw [hy]
        exact h.not_subscribed hc
      | some c => exact (restore_of_some hd hstopped hc).1
  · exact fun hstopped => restore_of_stopped hd hstopped w
  · exact fun hstopped hc => restore_of_absent hd hstopped (h.not_subscribed hc) hc w
  · intro c hstopped hc depth joined
    obtain ⟨-, hrefused, hreplayed⟩ := restore_of_some (w := w) hd hstopped hc
    exact ⟨calls_joining s c w, hrefused, hreplayed⟩

end Watched

/-- Each poll is made once. -/
def unretried : Settings := { (default : Settings) with topic := "t", retryCount := 1 }

/-- Its consumer finds a record, fails to poll again, and fails to leave the topic. -/
def failing : Watching Scripted.Factory :=
  ⟨0, [], [.ok {
    unsubscribes := [some (.kafka "left")]
    polls := [.batch none none [⟨0, 0, [97], [1]⟩], .fail (.kafka "lost")] }]⟩

/-- What comes before it restores. -/
def prepared : List (Event Scripted.Producer (Watched Scripted.Consumer) Loader) :=
  [.command .init, .command (.setAdapter ⟨none, some ⟨0, 0, none⟩⟩)]

/-- It fails as the replay did.  Without an adapter, or once it has stopped, it does nothing. -/
theorem restore_cleans_up_of_failing :
    let created : Checkpointer (Watching Scripted.Factory) Scripted.Producer
      (Watched Scripted.Consumer) Loader × Shared := create unretried failing default
    let x := runAll prepared created.1 created.2
    let y := restore x.1.2 x.2
    let stopped := runAll (prepared ++ [.command .stop]) created.1 created.2
    y.1.1 = .error (.broker (.kafka "lost")) ∧ y.1.2.isSubscribed = false ∧
      (∃ (polls : List (Except BrokerError (List Record))) (answer : Except BrokerError Unit),
        y.1.2.read.consumer.map (·.calls) =
          some ([.subscribe "t" none (.ok ())] ++ polls.map .poll ++ [.unsubscribe answer])) ∧
      (restore stopped.1.2 stopped.2).1.1 = .error .stopped ∧
      (restore created.1 created.2).1.1 = .error .notDeserializable := by
  intro created x y stopped
  obtain ⟨-, -, hrestore⟩ := restore_cleans_up unretried failing prepared default
  obtain ⟨-, -, hrefuse⟩ :=
    restore_cleans_up unretried failing (prepared ++ [.command .stop]) default
  obtain ⟨-, hnone, -⟩ := restore_cleans_up (P := Scripted.Producer) (C := Scripted.Consumer)
    (D := Loader) unretried failing [] default
  obtain ⟨hleft, -, -, hheld⟩ := hrestore ⟨0, 0, none⟩ rfl
  obtain ⟨-, hstopped, -⟩ := hrefuse ⟨0, 0, none⟩ rfl
  obtain ⟨hcalls, -, hjoined⟩ := hheld _ rfl rfl
  obtain ⟨hresult, polls, answer, hpolls⟩ := hjoined rfl
  refine ⟨hresult.trans rfl, hleft, ⟨polls, answer, hpolls.trans ?_⟩, ?_, ?_⟩
  · rw [hcalls]
    rfl
  · exact congrArg (fun y => y.1.1) (hstopped rfl)
  · exact congrArg (fun y => y.1.1) (hnone rfl)

end PositionLog.Checkpointer
