import PositionLog.Proofs.Checkpointer.Command
import PositionLog.Proofs.Checkpointer.Steps
import PositionLog.Proofs.Congruence
import PositionLog.Session.Clients

/-!
# How far a checkpointer has come

A checkpointer is new, initialized, running or stopped, and never goes back.  While it is
initialized or running it holds both clients, whoever made them and whatever they do; and it is
subscribed only if it holds a consumer and has not stopped.
-/

namespace PositionLog

/-- How far a phase is from the first. -/
def Phase.rank : Phase → Nat
  | uninitialized => 0
  | initialized => 1
  | running => 2
  | stopped => 3

/-! ## Who has a producer -/

/-- Whether there is a producer on the write path of an intake, if there is one. -/
def Intake.hasProducer {D P : Type} (i : Intake D P) : Option Bool :=
  i.write.map (·.producer.isSome)

/-- A deserializer that leaves the write path open, with a producer if it was handed one. -/
class Deserializer.Borrows (D : Type) [Deserializer D] : Prop where
  deserialize {P : Type} [LogProducer P] (key value : Bytes) (i : Intake D P) (w : Shared) :
    (Deserializer.deserialize key value i w).1.2.hasProducer = i.hasProducer

theorem WritePath.isSome_publish {P : Type} [LogProducer P] (p : Position) (s : WritePath P)
    (w : Shared) : (publish p s w).1.2.producer.isSome = s.producer.isSome := by
  obtain ⟨x, _ | producer, cache⟩ := s
  · rfl
  · let w₁ := w.withNotices (w.notices.push (.updating x.topic p.key.length p.value.length))
    rcases happend : (x.append p.key p.value producer : StateM Shared _) w₁ with
      ⟨⟨result, producer'⟩, w'⟩
    rw [publish_of_answer (s := ⟨x, some producer, cache⟩) rfl happend]
    rfl

instance : Deserializer.Borrows Loader where
  deserialize _ _ _ _ := rfl

namespace Scripted.Deserializer

/-- The write path, and with it its producer, is there or not as before. -/
def Has {P : Type} (b : Option Bool) (write : Option (WritePath P)) : Prop :=
  write.map (·.producer.isSome) = b

theorem has_perform {P : Type} [LogProducer P] (h : Hook) (b : Option Bool) :
    Act.Keeps (Has b) (perform h : Act (Option (WritePath P)) HookReply) := by
  rintro (_ | s) w hs
  · cases h <;> exact hs
  · cases h with
    | publish p => exact (congrArg some (s.isSome_publish p w)).trans hs
    | _ => exact hs

theorem has_runHook {P : Type} [LogProducer P] (h : Hook) (b : Option Bool) :
    Act.Keeps (Has b) (runHook h : Act (Option (WritePath P)) Unit) :=
  (Act.closed_keeps _).bind (has_perform h b) fun _ _ _ hs => hs

end Scripted.Deserializer

instance : Deserializer.Borrows Scripted.Deserializer where
  deserialize _ _ i _ :=
    (Act.closed_keeps _).forM (Scripted.Deserializer.has_runHook · i.hasProducer) _ i.write _ rfl

instance : Deserializer.Borrows Session.AnyDeserializer where
  deserialize key value
    | ⟨.loader l, write⟩, w =>
      Deserializer.Borrows.deserialize key value (⟨l, write⟩ : Intake Loader _) w
    | ⟨.scripted d, write⟩, w =>
      Deserializer.Borrows.deserialize key value (⟨d, write⟩ : Intake Scripted.Deserializer _) w

namespace Checkpointer

variable {F P C D : Type}

/-! ## What most steps keep -/

/-- The checkpointer has got no further.  It may have got clients that it lacked, and it may have
subscribed, with a consumer and before it stopped. -/
structure Steady (s s' : Checkpointer F P C D) : Prop where
  phase : s'.phase = s.phase
  producer : s.write.producer.isSome = true → s'.write.producer.isSome = true
  consumer : s.read.consumer.isSome = true → s'.read.consumer.isSome = true
  subscribed : s'.isSubscribed = true →
    s.isSubscribed = true ∨ s.isStopped = false ∧ s'.read.consumer.isSome = true

theorem Steady.refl (s : Checkpointer F P C D) : Steady s s := ⟨rfl, id, id, .inl⟩

theorem Steady.trans {s s' s'' : Checkpointer F P C D} (h : Steady s s') (h' : Steady s' s'') :
    Steady s s'' where
  phase := h'.phase.trans h.phase
  producer := h'.producer ∘ h.producer
  consumer := h'.consumer ∘ h.consumer
  subscribed hs := by
    rcases h'.subscribed hs with hs | ⟨hstopped, hconsumer⟩
    · exact (h.subscribed hs).imp_right fun ⟨hstopped, hc⟩ => ⟨hstopped, h'.consumer hc⟩
    · rw [isStopped, h.phase] at hstopped
      exact .inr ⟨hstopped, hconsumer⟩

/-- A step that keeps the checkpointer steady. -/
def Steadily {α : Type} (x : Act (Checkpointer F P C D) α) : Prop :=
  ∀ s w, Steady s (x s w).1.2

theorem closed_steadily :
    Act.Closed fun {α : Type} (x : Act (Checkpointer F P C D) α) => Steadily x where
  pure _ s _ := .refl s
  bind hx hg s w := (hx s w).trans (hg _ _ _)
  tell _ s _ := .refl s

theorem steadily_get : Steadily (get : Act (Checkpointer F P C D) _) := fun s _ => .refl s

theorem steadily_publish [LogProducer P] (p : Position) :
    Steadily (publish p : Operation (Checkpointer F P C D) Unit).run := by
  intro s w
  rw [Try.run_apply, publish, Try.bind_of_ok (Try.get_apply s w)]
  cases s.isStopped with
  | true => exact .refl s
  | false => exact ⟨rfl, (s.write.isSome_publish p w).trans, id, .inl⟩

section Clients

variable [LogConsumer C]

theorem readPath_subscribe (topic : String) (depth : Nat) (r : ReadPath C D) (w : Shared) :
    let r' := (ReadPath.subscribe topic depth r w).1.2
    r'.consumer.isSome = r.consumer.isSome ∧
      (r'.subscribed = true → r.subscribed = true ∨ r'.consumer.isSome = true) := by
  obtain ⟨_ | c, _ | _, d⟩ := r
  · exact ⟨rfl, nofun⟩
  · exact ⟨rfl, .inl⟩
  · let listener : Option Listener := if 1 ≤ depth then some (.rewind ⟨depth⟩) else none
    let w₁ := w.withNotices (w.notices.push (.subscribing topic depth))
    rcases hjoin : (LogConsumer.subscribe topic listener c : StateM Shared _) w₁ with
      ⟨⟨result, c'⟩, w'⟩
    rw [ReadPath.subscribe_of_answer hjoin]
    exact ⟨rfl, fun _ => .inr rfl⟩
  · exact ⟨rfl, .inl⟩

/-- To subscribe takes a consumer, and a checkpointer that has not stopped. -/
theorem steadily_subscribe : Steadily (subscribe : Operation (Checkpointer F P C D) Unit).run := by
  intro s w
  rw [Try.run_apply, subscribe, Try.bind_of_ok (Try.get_apply s w)]
  cases hstopped : s.isStopped with
  | true => exact .refl s
  | false =>
    rw [if_neg Bool.false_ne_true]
    dsimp only
    rw [Try.bind_of_ok (Try.lift_apply _ s w), onRead, Try.on_apply]
    obtain ⟨hconsumer, hsubscribed⟩ :=
      readPath_subscribe s.topic (s.replayDepth w).1 s.read (s.replayDepth w).2
    exact ⟨rfl, id, hconsumer.trans, fun hs =>
      (hsubscribed hs).imp_right fun hc => ⟨hstopped, hc⟩⟩

theorem steadily_unsubscribe : Steadily (unsubscribe : Act (Checkpointer F P C D) Unit) := by
  intro s w
  have hread : (ReadPath.unsubscribe s.topic s.read w).1.2.consumer.isSome =
        s.read.consumer.isSome ∧
      (ReadPath.unsubscribe s.topic s.read w).1.2.subscribed = false := by
    obtain ⟨_ | c, subscribed, d⟩ := s.read
    · exact ⟨rfl, rfl⟩
    · rcases hleave : (LogConsumer.unsubscribe c : StateM Shared _) w with ⟨⟨result, c'⟩, w'⟩
      rw [ReadPath.unsubscribe_of_answer s.topic subscribed d hleave]
      exact ⟨rfl, rfl⟩
  refine ⟨rfl, id, hread.1.trans, fun hs => ?_⟩
  exact absurd (hread.2.symm.trans hs) nofun

section Replay

variable [LogProducer P] [Deserializer D] [Deserializer.Borrows D]

theorem hasProducer_run (timeout retries : Nat) (halt : HaltScope) (b : Option Bool) :
    Act.Keeps (fun q : Replay.Playback C D P => q.toIntake.hasProducer = b)
      (Replay.Playback.run timeout retries halt).run := by
  intro q w hq
  rw [Try.run_apply, Replay.Playback.run_apply]
  have hclosed := (Act.closed_keeps fun q : Replay.Playback C D P =>
    q.toIntake.hasProducer = b).run BrokerError
  have hpoll : Act.Keeps (fun q : Replay.Playback C D P => q.toIntake.hasProducer = b)
    (Replay.Playback.poll timeout : Request (Replay.Playback C D P) _).run := fun _ _ h => h
  have htake (key value : Bytes) : Act.Keeps (fun q : Replay.Playback C D P =>
      q.toIntake.hasProducer = b) (Replay.Playback.take key value) := fun q w h =>
    (Deserializer.Borrows.deserialize key value q.toIntake w).trans h
  exact hclosed.drain hpoll htake retries halt (q.rounds w) {} q w hq

theorem steadily_replay : Steadily (replay : Operation (Checkpointer F P C D) _).run := by
  intro s w
  rw [Try.run_apply]
  rcases replay_cases s w with
    ⟨e, hreplay⟩ | ⟨c, subscribed, d, result, q, w', hread, hrun, hreplay⟩
  · rw [hreplay]
    exact .refl s
  · have hwrite := hasProducer_run s.settings.pollTimeout s.settings.retryCount s.settings.halt
      (some s.write.producer.isSome) { consumer := c, deserializer := d, write := some s.write } w
      rfl
    rw [Try.run_apply, hrun] at hwrite
    obtain ⟨write, hq, hproducer⟩ := Option.map_eq_some_iff.mp hwrite
    rw [hreplay]
    refine ⟨rfl, fun hs => ?_, fun _ => rfl, fun hs => .inl ?_⟩
    · rw [hq]
      exact hproducer.trans hs
    · rw [isSubscribed, hread]
      exact hs

theorem steadily_restore : Steadily (restore : Operation (Checkpointer F P C D) _).run :=
  closed_steadily.restore steadily_get steadily_subscribe steadily_replay steadily_unsubscribe

end Replay

end Clients

/-! ## Beginning and ending -/

section Init

variable [ClientFactory F P C] (s : Checkpointer F P C D) (w : Shared)

/-- There is a consumer unless it cannot be created. -/
theorem steady_createConsumer :
    Steady s (createConsumer s w).1.2 ∧
      ((createConsumer s w).1.1 = none →
        (createConsumer s w).1.2.read.consumer.isSome = true) := by
  cases hc : s.read.consumer with
  | some c =>
    rw [createConsumer_of_some hc w]
    exact ⟨.refl s, fun _ => congrArg Option.isSome hc⟩
  | none =>
    rcases hcreate : (ClientFactory.createConsumer s.settings.consumer s.factory :
      StateM Shared (_ × F)) w with ⟨⟨result, factory⟩, w'⟩
    cases result with
    | ok consumer =>
      rw [createConsumer_of_ok hc hcreate]
      exact ⟨⟨rfl, id, fun _ => rfl, .inl⟩, fun _ => rfl⟩
    | error cause =>
      rw [createConsumer_of_error hc hcreate]
      exact ⟨⟨rfl, id, id, .inl⟩, nofun⟩

/-- There is a producer unless it cannot be created. -/
theorem steady_createProducer :
    Steady s (createProducer s w).1.2 ∧
      ((createProducer s w).1.1 = none →
        (createProducer s w).1.2.write.producer.isSome = true) := by
  cases hp : s.write.producer with
  | some producer =>
    rw [createProducer_of_some hp w]
    exact ⟨.refl s, fun _ => congrArg Option.isSome hp⟩
  | none =>
    rcases hcreate : (ClientFactory.createProducer s.settings.producer s.factory :
      StateM Shared (_ × F)) w with ⟨⟨result, factory⟩, w'⟩
    cases result with
    | ok producer =>
      rw [createProducer_of_ok hp hcreate]
      exact ⟨⟨rfl, fun _ => rfl, id, .inl⟩, fun _ => rfl⟩
    | error cause =>
      rw [createProducer_of_error hp hcreate]
      exact ⟨⟨rfl, id, id, .inl⟩, nofun⟩

/-- A checkpointer is initialized once it has both clients, unless it has stopped. -/
theorem init_cases :
    (∃ e s' w', init s w = ((.error e, s'), w') ∧ Steady s s') ∨
    ∃ s' w', init s w = ((.ok (), finishInit s'), w') ∧ Steady s s' ∧ s.isStopped = false ∧
      s'.isInitialized = true := by
  cases hstopped : s.isStopped with
  | true => exact .inl ⟨.stopped, s, w, init_of_stopped hstopped w, .refl s⟩
  | false =>
    let w₀ := w.withNotices (w.notices.push (.initializing s.topic))
    rcases hfirst : createConsumer s w₀ with ⟨⟨first, s₁⟩, w₁⟩
    rcases hsecond : createProducer s₁ w₁ with ⟨⟨second, s₂⟩, w₂⟩
    obtain ⟨hs₁, hconsumer⟩ := steady_createConsumer s w₀
    obtain ⟨hs₂, hproducer⟩ := steady_createProducer s₁ w₁
    rw [hfirst] at hs₁ hconsumer
    rw [hsecond] at hs₂ hproducer
    rw [init_of_answers hstopped hfirst hsecond]
    cases first with
    | some e => exact .inl ⟨e, s₂, w₂, rfl, hs₁.trans hs₂⟩
    | none =>
      cases second with
      | some e => exact .inl ⟨e, s₂, w₂, rfl, hs₁.trans hs₂⟩
      | none =>
        have hboth : s₂.isInitialized = true :=
          Bool.and_eq_true_iff.mpr ⟨hproducer rfl, hs₂.consumer (hconsumer rfl)⟩
        exact .inr ⟨s₂, w₂, rfl, hs₁.trans hs₂, rfl, hboth⟩

end Init

/-- A checkpointer that is stopped has stopped.  If it had not before, it is not subscribed any
more. -/
theorem stop_spec [LogProducer P] [LogConsumer C] (s : Checkpointer F P C D) (w : Shared) :
    (stop s w).1.2.isStopped = true ∧
      ((stop s w).1.2 = s ∨ (stop s w).1.2.isSubscribed = false) := by
  cases hstopped : s.isStopped with
  | true =>
    rw [stop_of_stopped hstopped w]
    exact ⟨hstopped, .inl rfl⟩
  | false =>
    obtain ⟨w', hstop⟩ := stop_of_not_stopped hstopped w
    rw [hstop]
    exact ⟨rfl, .inr rfl⟩

/-! ## All that can happen -/

/-- What happens to a checkpointer.  Its owner may also use its clients, in any way. -/
inductive Event (P C D : Type) where
  | command (c : Command P C D)
  | producer (x : Act P Unit)
  | consumer (x : Act C Unit)
  /-- Something else happens to what is shared. -/
  | elsewhere (x : StateM Shared Unit)

/-- The checkpointer can be started. -/
def Ready (s : Checkpointer F P C D) : Prop := s.phase = .initialized ∨ s.phase = .running

/-- A checkpointer that is subscribed holds a consumer and has not stopped. -/
def Attached (s : Checkpointer F P C D) : Prop :=
  s.isSubscribed = true → s.read.consumer.isSome = true ∧ s.isStopped = false

/-- A checkpointer that can be started holds both clients, and one that is subscribed holds a
consumer and has not stopped. -/
structure Sound (s : Checkpointer F P C D) : Prop where
  initialized : s.Ready → s.isInitialized = true
  subscribed : s.isSubscribed = true → s.read.consumer.isSome = true ∧ s.isStopped = false

/-- How a checkpointer gets on when these events take place and are answered. -/
structure Passage (answers : List (Event P C D × Except Error Unit))
    (s s' : Checkpointer F P C D) : Prop where
  sound : s.Sound → s'.Sound
  rank_le : s.phase.rank ≤ s'.phase.rank
  stopped_iff : s'.isStopped = true ↔
    s.isStopped = true ∨ .command .stop ∈ answers.map Prod.fst
  ready_iff : s'.Ready ↔
    s'.isStopped = false ∧ (s.Ready ∨ (.command .init, .ok ()) ∈ answers)

theorem not_stopped_of_ready {s : Checkpointer F P C D} (h : s.Ready) : s.isStopped = false := by
  apply decide_eq_false
  rcases h with h | h <;> rw [h] <;> exact nofun

theorem Passage.append {xs ys : List (Event P C D × Except Error Unit)}
    {s s' s'' : Checkpointer F P C D} (h : Passage xs s s') (h' : Passage ys s' s'') :
    Passage (xs ++ ys) s s'' where
  sound := h'.sound ∘ h.sound
  rank_le := Nat.le_trans h.rank_le h'.rank_le
  stopped_iff := by
    rw [h'.stopped_iff, h.stopped_iff, List.map_append, List.mem_append, or_assoc]
  ready_iff := by
    rw [h'.ready_iff, h.ready_iff, List.mem_append]
    constructor
    · rintro ⟨hs, ⟨-, h⟩ | h⟩
      · exact ⟨hs, h.imp_right .inl⟩
      · exact ⟨hs, .inr (.inr h)⟩
    · rintro ⟨hs, hready⟩
      have hs' : s'.isStopped = false := by
        rw [Bool.eq_false_iff]
        intro ht
        rw [h'.stopped_iff.mpr (.inl ht)] at hs
        cases hs
      refine ⟨hs, ?_⟩
      rcases hready with hready | hready | hready
      · exact .inl ⟨hs', .inl hready⟩
      · exact .inl ⟨hs', .inr hready⟩
      · exact .inr hready

section Steady

variable {s s' : Checkpointer F P C D}

theorem Steady.isStopped_eq (h : Steady s s') : s'.isStopped = s.isStopped := by
  rw [isStopped, h.phase]
  rfl

theorem Steady.ready_iff (h : Steady s s') : s'.Ready ↔ s.Ready := by
  rw [Ready, h.phase]
  rfl

theorem Steady.attached (h : Steady s s') (hs : s.Attached) : s'.Attached := by
  intro hsubscribed
  rw [h.isStopped_eq]
  rcases h.subscribed hsubscribed with hold | ⟨hstopped, hconsumer⟩
  · exact (hs hold).imp_left h.consumer
  · exact ⟨hconsumer, hstopped⟩

theorem Steady.sound (h : Steady s s') (hs : s.Sound) : s'.Sound where
  initialized hready := by
    obtain ⟨hproducer, hconsumer⟩ :=
      Bool.and_eq_true_iff.mp (hs.initialized (h.ready_iff.mp hready))
    exact Bool.and_eq_true_iff.mpr ⟨h.producer hproducer, h.consumer hconsumer⟩
  subscribed := h.attached hs.subscribed

/-- Events that bring no more than clients, or a subscription. -/
theorem Steady.passage (h : Steady s s') {answers : List (Event P C D × Except Error Unit)}
    (hstop : .command .stop ∉ answers.map Prod.fst) (hinit : (.command .init, .ok ()) ∉ answers) :
    Passage answers s s' where
  sound := h.sound
  rank_le := Nat.le_of_eq (congrArg Phase.rank h.phase.symm)
  stopped_iff := by rw [h.isStopped_eq, or_iff_left hstop]
  ready_iff := by
    rw [or_iff_left hinit, h.isStopped_eq, h.ready_iff]
    exact ⟨fun hready => ⟨not_stopped_of_ready hready, hready⟩, And.right⟩

/-- The same, of one event. -/
theorem Steady.passage_singleton (h : Steady s s') {e : Event P C D} {answer : Except Error Unit}
    (hstop : e ≠ .command .stop) (hinit : e = .command .init → answer ≠ .ok ()) :
    Passage [(e, answer)] s s' := by
  apply h.passage
  · exact fun hmem => hstop (List.mem_singleton.mp hmem).symm
  · intro hmem
    obtain ⟨rfl, rfl⟩ := Prod.mk.inj (List.mem_singleton.mp hmem)
    exact hinit rfl rfl

end Steady

section Events

variable (s : Checkpointer F P C D) (w : Shared)

theorem steady_replaceProducer [LogProducer P] (producer : P) :
    Steady s (replaceProducer producer s w).1.2 := by
  rw [replaceProducer, Act.bind_of_eq (Act.get_apply s w)]
  cases s.write.producer <;> exact ⟨rfl, fun _ => rfl, id, .inl⟩

theorem steady_setPollTimeout (timeout : Nat) : Steady s (setPollTimeout timeout s w).1.2 := by
  rw [setPollTimeout, Try.bind_of_ok (Try.get_apply s w)]
  cases s.settings.withPollTimeout timeout <;> exact ⟨rfl, id, id, .inl⟩

theorem steady_onProducer (x : Act P Unit) : Steady s (onProducer x s w).1.2 := by
  have hsome : (x.onSome s.write.producer w).1.2.isSome = s.write.producer.isSome := by
    cases s.write.producer <;> rfl
  exact ⟨rfl, hsome.trans, id, .inl⟩

theorem steady_onConsumer (x : Act C Unit) : Steady s (onConsumer x s w).1.2 := by
  have hsome : (x.onSome s.read.consumer w).1.2.isSome = s.read.consumer.isSome := by
    cases s.read.consumer <;> rfl
  exact ⟨rfl, id, hsome.trans, .inl⟩

/-- A checkpointer that holds both clients, and has not stopped, gets ready. -/
theorem passage_finishInit (hs : s.isStopped = false) (h : s.isInitialized = true) :
    Passage [(.command .init, .ok ())] s (finishInit s) := by
  obtain ⟨settings, factory, _ | _ | _ | _, write, read⟩ := s
  · refine ⟨fun hsound => ⟨fun _ => h, hsound.subscribed⟩, Nat.zero_le _, ?_, ?_⟩
    · simp [finishInit, isStopped]
    · simp [finishInit, isStopped, Ready]
  · refine ⟨id, Nat.le_refl _, ?_, ?_⟩
    · simp [finishInit, isStopped]
    · simp [finishInit, isStopped, Ready]
  · refine ⟨id, Nat.le_refl _, ?_, ?_⟩
    · simp [finishInit, isStopped]
    · simp [finishInit, isStopped, Ready]
  · cases hs

theorem passage_init [ClientFactory F P C] :
    Passage [(.command .init, (init s w).1.1)] s (init s w).1.2 := by
  rcases init_cases s w with ⟨e, s', w', hinit, hsteady⟩ | ⟨s', w', hinit, hsteady, hs, hboth⟩
  · rw [hinit]
    exact hsteady.passage_singleton nofun fun _ => nofun
  · rw [hinit]
    exact (hsteady.passage List.not_mem_nil List.not_mem_nil).append
      (passage_finishInit s' (hsteady.isStopped_eq.trans hs) hboth)

theorem passage_start : Passage [(.command .start, (start s w).1.1)] s (start s w).1.2 := by
  have hrun (hs : s.Ready) :
      Passage [(.command .start, .ok ())] s { s with phase := .running } := by
    have hstopped := not_stopped_of_ready hs
    refine ⟨fun hsound => ⟨fun _ => hsound.initialized hs, fun h => ?_⟩, ?_, ?_, ?_⟩
    · exact ⟨(hsound.subscribed h).1, rfl⟩
    · have hrank : s.phase.rank ≤ 2 := by
        rcases hs with h | h <;> rw [h] <;> decide
      exact hrank
    · rw [hstopped]
      simp [isStopped]
    · exact ⟨fun _ => ⟨rfl, .inl hs⟩, fun _ => .inr rfl⟩
  obtain ⟨settings, factory, _ | _ | _ | _, write, read⟩ := s
  · exact (Steady.refl _).passage_singleton nofun nofun
  · exact hrun (.inl rfl)
  · exact hrun (.inr rfl)
  · exact (Steady.refl _).passage_singleton nofun nofun

theorem start_eq_ok_iff : (start s w).1.1 = .ok () ↔ s.Ready := by
  obtain ⟨settings, factory, _ | _ | _ | _, write, read⟩ := s
  · exact ⟨nofun, nofun⟩
  · exact ⟨fun _ => .inl rfl, fun _ => rfl⟩
  · exact ⟨fun _ => .inr rfl, fun _ => rfl⟩
  · exact ⟨nofun, nofun⟩

theorem passage_stop [LogProducer P] [LogConsumer C] :
    Passage [(.command .stop, .ok ())] s (stop s w).1.2 := by
  obtain ⟨hstopped, hread⟩ := stop_spec s w
  have hnot : ¬(stop s w).1.2.Ready := by
    intro h
    rw [not_stopped_of_ready h] at hstopped
    cases hstopped
  refine ⟨fun hs => ⟨fun h => absurd h hnot, fun h => ?_⟩, ?_, ?_, ?_⟩
  · rcases hread with hsame | hread
    · rw [hsame] at h ⊢
      exact hs.subscribed h
    · rw [hread] at h
      cases h
  · rw [of_decide_eq_true hstopped]
    cases s.phase <;> decide
  · simp [hstopped]
  · simp [hnot, hstopped]

end Events

section Run

variable [ClientFactory F P C] [LogProducer P] [LogConsumer C] [Deserializer D]

def Event.run : Event P C D → Act (Checkpointer F P C D) (Except Error Unit)
  | command c => c.run
  | producer x => do
    let _ ← onProducer x
    return .ok ()
  | consumer x => do
    let _ ← onConsumer x
    return .ok ()
  | elsewhere x => do return .ok (← x)

/-- All events, one after the other, each with its answer. -/
def runAll :
    List (Event P C D) → Act (Checkpointer F P C D) (List (Event P C D × Except Error Unit))
  | [] => return []
  | e :: es => do
    let answer ← e.run
    let answers ← runAll es
    return (e, answer) :: answers

theorem map_fst_runAll (es : List (Event P C D)) (s : Checkpointer F P C D) (w : Shared) :
    (runAll es s w).1.1.map Prod.fst = es := by
  induction es generalizing s w with
  | nil => rfl
  | cons e es ih => exact congrArg (e :: ·) (ih _ _)

variable [Deserializer.Borrows D]

theorem Event.run_passage (e : Event P C D) (s : Checkpointer F P C D) (w : Shared) :
    Passage [(e, (e.run s w).1.1)] s (e.run s w).1.2 := by
  cases e with
  | command c =>
    cases c with
    | useProducer producer =>
      exact (steady_replaceProducer s w producer).passage_singleton nofun nofun
    | useConsumer consumer =>
      have hsteady : Steady s (s.setConsumer (some consumer)) := ⟨rfl, id, fun _ => rfl, .inl⟩
      exact hsteady.passage_singleton nofun nofun
    | setAdapter a =>
      have hsteady : Steady s (s.withAdapter a) := ⟨rfl, id, id, .inl⟩
      exact hsteady.passage_singleton nofun nofun
    | setPollTimeout timeout =>
      exact (steady_setPollTimeout s w timeout).passage_singleton nofun nofun
    | init => exact passage_init s w
    | start => exact passage_start s w
    | publish p => exact (steadily_publish p s w).passage_singleton nofun nofun
    | subscribe => exact (steadily_subscribe s w).passage_singleton nofun nofun
    | unsubscribe => exact (steadily_unsubscribe s w).passage_singleton nofun nofun
    | restore => exact (steadily_restore s w).passage_singleton nofun nofun
    | clearLosses => exact (Steady.refl s).passage_singleton nofun nofun
    | stop => exact passage_stop s w
  | producer x => exact (steady_onProducer s w x).passage_singleton nofun nofun
  | consumer x => exact (steady_onConsumer s w x).passage_singleton nofun nofun
  | elsewhere x => exact (Steady.refl s).passage_singleton nofun nofun

theorem runAll_passage (es : List (Event P C D)) (s : Checkpointer F P C D) (w : Shared) :
    Passage (runAll es s w).1.1 s (runAll es s w).1.2 := by
  induction es generalizing s w with
  | nil => exact (Steady.refl s).passage List.not_mem_nil List.not_mem_nil
  | cons e es ih => exact (e.run_passage s w).append (ih _ _)

/-- Whatever happens to a new checkpointer, it never goes back to an earlier phase, and once stopped
it stays so.  While it is initialized or running it holds both clients, and while it is subscribed
it holds a consumer and has not stopped.  It can be started exactly if an earlier attempt to
initialize it succeeded and it was not told to stop. -/
theorem lifetime (settings : Settings) (factory : F) (es fs : List (Event P C D)) (w : Shared) :
    let created : Checkpointer F P C D × Shared := create settings factory w
    let x := runAll es created.1 created.2
    let s := x.1.2
    let s' := (runAll fs s x.2).1.2
    s.phase.rank ≤ s'.phase.rank ∧ (s.isStopped = true → s'.isStopped = true) ∧
    (s.phase = .initialized ∨ s.phase = .running → s.isInitialized = true) ∧
    (s.isRunning = true → s.isInitialized = true ∧ s.isStopped = false) ∧
    (s.isSubscribed = true → s.read.consumer.isSome = true ∧ s.isStopped = false) ∧
    ((start s x.2).1.1 = .ok () ↔ (.command .init, .ok ()) ∈ x.1.1 ∧ .command .stop ∉ es) := by
  intro created x s s'
  have hcreated : created.1.Sound := ⟨nofun, nofun⟩
  have hfirst : Passage x.1.1 created.1 s := runAll_passage es created.1 created.2
  have hthen : Passage (runAll fs s x.2).1.1 s s' := runAll_passage fs s x.2
  have hsound := hfirst.sound hcreated
  refine ⟨hthen.rank_le, fun h => hthen.stopped_iff.mpr (.inl h), hsound.initialized, fun h => ?_,
    hsound.subscribed, ?_⟩
  · have hready : s.Ready := .inr (of_decide_eq_true h)
    exact ⟨hsound.initialized hready, not_stopped_of_ready hready⟩
  · rw [start_eq_ok_iff, hfirst.ready_iff, ← Bool.not_eq_true, hfirst.stopped_iff,
      map_fst_runAll es created.1 created.2]
    have hnew : ¬(created.1.isStopped = true) ∧ ¬created.1.Ready := ⟨nofun, nofun⟩
    rw [or_iff_right hnew.1, or_iff_right hnew.2, and_comm]

/-- A checkpointer whose first consumer cannot be created. -/
def unlucky : Checkpointer Scripted.Factory Scripted.Producer Scripted.Consumer Loader × Shared :=
  create default ⟨0, [], [.error .closed]⟩ default

/-- What it is told, until it has subscribed. -/
def attempts : List (Event Scripted.Producer Scripted.Consumer Loader) :=
  [.command .init, .command .start, .command .init, .command .subscribe]

/-- It can be started once it is initialized at the second attempt, and not any more when it has
stopped. -/
theorem lifetime_of_unlucky :
    let x := runAll attempts unlucky.1 unlucky.2
    let y := runAll (attempts ++ [.command .stop, .command .init]) unlucky.1 unlucky.2
    (start x.1.2 x.2).1.1 = .ok () ∧ x.1.2.isInitialized = true ∧ x.1.2.isSubscribed = true ∧
      x.1.2.isStopped = false ∧ (start y.1.2 y.2).1.1 ≠ .ok () := by
  intro x y
  obtain ⟨-, -, hclients, -, hsubscribed, hstart⟩ :=
    lifetime default (⟨0, [], [.error .closed]⟩ : Scripted.Factory) attempts [] {}
  obtain ⟨-, -, -, -, -, hrestart⟩ :=
    lifetime default (⟨0, [], [.error .closed]⟩ : Scripted.Factory)
      (attempts ++ [.command .stop, .command .init]) [] {}
  have hinit : (.command .init, .ok ()) ∈ x.1.1 := List.mem_of_getElem? (i := 2) rfl
  have hstop : .command .stop ∉ attempts := by simp [attempts]
  refine ⟨hstart.mpr ⟨hinit, hstop⟩, hclients (.inl rfl), rfl, (hsubscribed rfl).2, fun h => ?_⟩
  exact (hrestart.mp h).2 (List.mem_of_getElem? (i := 4) rfl)

end Run

end Checkpointer

end PositionLog
