import PositionLog.Proofs.Checkpointer.Reception
import PositionLog.Proofs.Congruence
import PositionLog.Proofs.Replay.Delivery
import PositionLog.Session.Clients

/-!
# Notices are for people

Nothing that a checkpointer over a broker in memory does depends on what was told before, unless
its deserializer listens.  So two runs that tell different things come to the same.
-/

namespace PositionLog

variable {S T α : Type}

/-- What is shared, besides the notices. -/
def Shared.silent (w : Shared) : Shared := w.withNotices {}

@[simp] theorem Shared.broker_silent (w : Shared) : w.silent.broker = w.broker := rfl

/-- What two steps come to differs at most in what was told. -/
structure Indistinct (x y : α × Shared) : Prop where
  result : x.1 = y.1
  silent : x.2.silent = y.2.silent

namespace Indistinct

variable {x y z : α × Shared}

theorem symm (h : Indistinct x y) : Indistinct y x := ⟨h.result.symm, h.silent.symm⟩

theorem trans (h : Indistinct x y) (h' : Indistinct y z) : Indistinct x z :=
  ⟨h.result.trans h'.result, h.silent.trans h'.silent⟩

end Indistinct

/-- A step that comes to the same if nothing was told before. -/
def Deaf (x : Act S α) : Prop := ∀ s w, Indistinct (x s w.silent) (x s w)

namespace Deaf

/-- It comes to the same whatever was told before. -/
theorem indistinct {x : Act S α} (hx : Deaf x) (s : S) {w v : Shared} (h : w.silent = v.silent) :
    Indistinct (x s w) (x s v) := by
  have hw := hx s w
  rw [h] at hw
  exact hw.symm.trans (hx s v)

theorem closed : Act.Closed fun {α : Type} (x : Act S α) => Deaf x where
  pure _ _ _ := ⟨rfl, rfl⟩
  bind {_ _ x g} hx hg s w := by
    obtain ⟨hresult, hshared⟩ := hx s w
    rw [Act.bind_apply, Act.bind_apply, hresult]
    exact (hg (x s w).1.1).indistinct (x s w).1.2 hshared
  tell _ _ _ := ⟨rfl, rfl⟩

theorem get : Deaf (MonadState.get : Act S S) := fun _ _ => ⟨rfl, rfl⟩

theorem set (s : S) : Deaf (MonadStateOf.set s : Act S Unit) := fun _ _ => ⟨rfl, rfl⟩

theorem modify (f : S → S) : Deaf (modify f : Act S Unit) := fun _ _ => ⟨rfl, rfl⟩

theorem lift {x : StateM Shared α} (h : ∀ w, Indistinct (x w.silent) (x w)) :
    Deaf (liftM x : Act S α) := fun _ w =>
  ⟨congrArg (·, _) (h w).result, (h w).silent⟩

/-- What something else does from a state of its own is as deaf as it. -/
theorem liftApply {x : Act T α} (hx : Deaf x) (t : T) : Deaf (liftM (x t) : Act S (α × T)) :=
  lift (hx t)

theorem on {x : Act T α} (hx : Deaf x) (part : S → T) (put : T → S → S) :
    Deaf (x.on part put) := fun s w => by
  obtain ⟨hresult, hshared⟩ := hx (part s) w
  rw [Act.on_apply, Act.on_apply, hresult]
  exact ⟨rfl, hshared⟩

theorem onSome {x : Act T α} (hx : Deaf x) : Deaf x.onSome := fun s w => by
  cases s with
  | none => exact ⟨rfl, rfl⟩
  | some t =>
    obtain ⟨hresult, hshared⟩ := hx t w
    rw [Act.onSome_some, Act.onSome_some, hresult]
    exact ⟨rfl, hshared⟩

end Deaf

/-! ## Publishing -/

open Broker (Producer Consumer Subscription)

theorem WritePath.deaf_publish (p : Position) :
    Deaf (publish p : Operation (WritePath Producer) Unit).run := by
  intro s w
  obtain ⟨n, hpublish⟩ := publish_received p w s
  obtain ⟨m, hsilent⟩ := publish_received p w.silent s
  rw [Try.run_apply, Try.run_apply, hpublish, hsilent]
  exact ⟨rfl, rfl⟩

theorem Checkpointer.deaf_publish {F C D : Type} (p : Position) :
    Deaf (publish p : Operation (Checkpointer F Producer C D) Unit).run := by
  intro s w
  obtain ⟨n, hpublish⟩ := publish_received p w s
  obtain ⟨m, hsilent⟩ := publish_received p w.silent s
  rw [Try.run_apply, Try.run_apply, hpublish, hsilent]
  exact ⟨rfl, rfl⟩

/-! ## Reading -/

namespace Broker

theorem deaf_endOffset (p : TopicPartition) : Deaf (cursor.endOffset p) := fun _ _ => ⟨rfl, rfl⟩

theorem deaf_seek (p : TopicPartition) (offset : Int) : Deaf (cursor.seek p offset) := by
  intro s w
  simp only [cursor, Act.ite_apply]
  by_cases hneg : offset < 0
  · rw [if_pos hneg, if_pos hneg]
    exact ⟨rfl, rfl⟩
  · rw [if_neg hneg, if_neg hneg, Act.bind_apply, Act.bind_apply, Act.getThe_apply,
      Act.getThe_apply]
    dsimp only
    rw [Act.ite_apply, Act.ite_apply, Shared.broker_silent]
    by_cases hin : 0 ≤ p.partition ∧ p.partition < w.broker.partitions
    · rw [if_pos hin, if_pos hin]
      exact ⟨rfl, rfl⟩
    · rw [if_neg hin, if_neg hin]
      exact ⟨rfl, rfl⟩

theorem deaf_command (q : CursorCommand) : Deaf (q.run cursor) := by
  cases q with
  | endOffset p =>
    exact Deaf.closed.bind (deaf_endOffset p) fun _ => Deaf.lift fun _ => ⟨rfl, rfl⟩
  | seek p offset =>
    exact Deaf.closed.bind (deaf_seek p offset) fun _ => Deaf.lift fun _ => ⟨rfl, rfl⟩

theorem deaf_assigned (l : Listener) (ps : List TopicPartition) : Deaf (l.assigned cursor ps) :=
  Deaf.closed.assigned deaf_endOffset deaf_seek deaf_command
    (fun _ => Deaf.lift fun _ => ⟨rfl, rfl⟩) l ps

/-- Which positions are assigned does not depend on what was told. -/
theorem Subscription.assign_silent (s : Subscription) (w : Shared) :
    Indistinct (s.assign w.silent) (s.assign w) := by
  rcases s with ⟨topic, _ | l, _ | positions⟩
  · exact ⟨rfl, rfl⟩
  · exact ⟨rfl, rfl⟩
  · obtain ⟨hresult, hshared⟩ := deaf_assigned l (w.broker.partitionsOf topic) {} w
    exact ⟨congrArg Prod.snd hresult, hshared⟩
  · exact ⟨rfl, rfl⟩

namespace Consumer

theorem deaf_subscribe (topic : String) (l : Option Listener) : Deaf (subscribe topic l).run := by
  rintro ⟨_, _ | _, _, _, _, _, _⟩ w <;> exact ⟨rfl, rfl⟩

theorem deaf_unsubscribe : Deaf unsubscribe.run := by
  rintro ⟨_ | ⟨topic, _ | _ | _, positions⟩, _ | _, _, _, _, _, _⟩ w <;> exact ⟨rfl, rfl⟩

theorem deaf_poll : Deaf poll.run := by
  intro c w
  rw [Try.run_apply, Try.run_apply]
  cases hopen : c.closed with
  | true =>
    rcases c with ⟨_, closed, _, _, _, _, _⟩
    obtain rfl : closed = true := hopen
    exact ⟨rfl, rfl⟩
  | false =>
    cases hs : c.subscription with
    | none =>
      rcases c with ⟨sub, closed, _, _, _, _, _⟩
      obtain rfl : closed = false := hopen
      obtain rfl : sub = none := hs
      exact ⟨rfl, rfl⟩
    | some s =>
      -- Both are assigned the same positions, on the same logs, and so take the same records.
      obtain ⟨hpositions, hshared⟩ := s.assign_silent w
      rcases ha : s.assign w with ⟨positions, w₁⟩
      rcases ha' : s.assign w.silent with ⟨positions', v₁⟩
      rw [ha, ha'] at hpositions hshared
      obtain rfl : positions' = positions := hpositions
      replace hshared : v₁.silent = w₁.silent := hshared
      have hbroker : v₁.silent.broker = w₁.silent.broker := congrArg Shared.broker hshared
      rw [Shared.broker_silent, Shared.broker_silent] at hbroker
      cases hk : c.stalledPolls with
      | zero =>
        rw [poll_apply hopen hs ha hk, poll_apply hopen hs ha' hk, hbroker]
        exact ⟨rfl, hshared⟩
      | succ k =>
        rw [poll_of_stalled hopen hs ha hk, poll_of_stalled hopen hs ha' hk]
        exact ⟨rfl, hshared⟩

end Consumer

end Broker

/-! ## Deserializers -/

/-- A deserializer that does not listen. -/
class Deserializer.IsDeaf (D : Type) [Deserializer D] : Prop where
  deaf (key value : Bytes) :
    Deaf (Deserializer.deserialize key value : Act (Intake D Producer) Bool)

instance : Deserializer.IsDeaf Loader where
  deaf key value := by
    change Deaf (get >>= fun i : Intake Loader Producer => liftM (i.deserializer.load key value))
    refine Deaf.closed.bind Deaf.get fun i => Deaf.lift fun w => ?_
    rw [Loader.load]
    cases Position.ofRecord? key value <;> exact ⟨rfl, rfl⟩

namespace Scripted.Deserializer

theorem deaf_perform (h : Hook) :
    Deaf (perform h : Act (Option (WritePath Broker.Producer)) HookReply) := by
  cases h with
  | broker c => exact fun _ w => ⟨rfl, rfl⟩
  | publish p =>
    exact Deaf.closed.bind (WritePath.deaf_publish p).onSome fun _ => Deaf.closed.pure _
  | losses =>
    rintro (_ | s) w <;> exact ⟨rfl, rfl⟩
  | clearLosses =>
    rintro (_ | s) w <;> exact ⟨rfl, rfl⟩

theorem deaf_runHook (h : Hook) :
    Deaf (runHook h : Act (Option (WritePath Broker.Producer)) Unit) :=
  Deaf.closed.bind (deaf_perform h) fun _ => Deaf.lift fun _ => ⟨rfl, rfl⟩

end Scripted.Deserializer

instance : Deserializer.IsDeaf Scripted.Deserializer where
  deaf key value := by
    change Deaf (Scripted.Deserializer.deserialize key value)
    refine Deaf.closed.bind Deaf.get fun s => ?_
    refine Deaf.closed.bind (Deaf.lift fun _ => ⟨rfl, rfl⟩) fun _ => ?_
    refine Deaf.closed.bind (Deaf.set _) fun _ => ?_
    have hhooks := Deaf.closed.forM Scripted.Deserializer.deaf_runHook
      (s.deserializer.hooksAt (s.deserializer.seen + 1))
    exact Deaf.closed.bind (hhooks.on _ _) fun _ => Deaf.closed.pure _

open Session in
instance : Deserializer.IsDeaf AnyDeserializer where
  deaf key value := by
    rintro ⟨l | d, write⟩ w
    · obtain ⟨hresult, hshared⟩ :=
        Deserializer.IsDeaf.deaf key value (⟨l, write⟩ : Intake Loader Producer) w
      let wrap (x : Bool × Intake Loader Producer) : Bool × Intake AnyDeserializer Producer :=
        (x.1, ⟨.loader x.2.deserializer, x.2.write⟩)
      exact ⟨congrArg wrap hresult, hshared⟩
    · obtain ⟨hresult, hshared⟩ :=
        Deserializer.IsDeaf.deaf key value (⟨d, write⟩ : Intake Scripted.Deserializer Producer) w
      let wrap (x : Bool × Intake Scripted.Deserializer Producer) :
          Bool × Intake AnyDeserializer Producer :=
        (x.1, ⟨.scripted x.2.deserializer, x.2.write⟩)
      exact ⟨congrArg wrap hresult, hshared⟩

variable {D : Type} [Deserializer D] [Deserializer.IsDeaf D]

/-- To write down what is given is not to listen. -/
instance : Deserializer.IsDeaf (Replay.Transcribed D) where
  deaf key value := by
    have hgiven : Deaf (Deserializer.deserialize key value : Act (Intake D Producer) Bool) :=
      Deserializer.IsDeaf.deaf key value
    change Deaf (Replay.Transcribed.deserialize key value)
    refine Deaf.closed.bind (hgiven.on _ _) fun _ => ?_
    exact Deaf.closed.bind (Deaf.modify _) fun _ => Deaf.closed.pure _

/-! ## Restoring -/

theorem Replay.Playback.deaf_run (timeout retries : Nat) (halt : HaltScope) :
    Deaf (run timeout retries halt : Request (Playback Consumer D Producer) Summary).run := by
  intro s w
  have hrounds : s.rounds w.silent = s.rounds w := rfl
  have hpoll : Deaf (poll timeout : Request (Playback Consumer D Producer) (List Record)).run :=
    Consumer.deaf_poll.on consumer fun consumer s => { s with consumer }
  have htake (key value : Bytes) :
      Deaf (take key value : Act (Playback Consumer D Producer) Bool) :=
    (Deserializer.IsDeaf.deaf key value).on _ _
  rw [Try.run_apply, Try.run_apply, run_apply, run_apply, hrounds]
  exact (Deaf.closed.run BrokerError).drain hpoll htake retries halt (s.rounds w) {} s w

namespace ReadPath

omit [Deserializer D] [Deserializer.IsDeaf D]

theorem deaf_subscribe (topic : String) (depth : Nat) :
    Deaf (subscribe topic depth : Operation (ReadPath Consumer D) Unit).run := by
  refine Deaf.closed.try_bind (Deaf.closed.try_lift Deaf.get) fun s => ?_
  cases s.subscribed with
  | true => exact Deaf.closed.try_pure ()
  | false =>
    cases s.consumer with
    | none => exact Deaf.closed.try_throw _
    | some c =>
      refine Deaf.closed.try_bind (Deaf.closed.try_lift (Deaf.closed.tell _)) fun _ => ?_
      refine Deaf.closed.try_bind
        (Deaf.closed.try_lift (Deaf.liftApply (Consumer.deaf_subscribe topic _) c)) ?_
      rintro ⟨result, c'⟩
      cases result with
      | ok _ => exact Deaf.closed.try_lift (Deaf.set _)
      | error cause =>
        exact Deaf.closed.try_bind (Deaf.closed.try_lift (Deaf.set _)) fun _ =>
          Deaf.closed.try_throw _

theorem deaf_unsubscribe (topic : String) :
    Deaf (unsubscribe topic : Act (ReadPath Consumer D) Unit) := by
  refine Deaf.closed.bind Deaf.get fun s => ?_
  cases s.consumer with
  | none => exact Deaf.set _
  | some c =>
    refine Deaf.closed.bind (Deaf.liftApply Consumer.deaf_unsubscribe c) ?_
    rintro ⟨result, c'⟩
    refine Deaf.closed.bind (Deaf.set _) fun _ => ?_
    match result with
    | .ok () => exact Deaf.closed.pure ()
    | .error .closed | .error (.unavailable _) | .error (.invalidState _) | .error (.kafka _) =>
      exact Deaf.closed.tell _

end ReadPath

namespace Checkpointer

variable {F : Type}

section Subscribe

omit [Deserializer D] [Deserializer.IsDeaf D]

theorem deaf_onRead {x : Operation (ReadPath Consumer D) α} (hx : Deaf x.run) :
    Deaf (onRead x : Operation (Checkpointer F Producer Consumer D) α).run :=
  hx.on read fun read s => { s with read }

theorem deaf_subscribe :
    Deaf (subscribe : Operation (Checkpointer F Producer Consumer D) Unit).run := by
  refine Deaf.closed.subscribe Deaf.get (fun s => Deaf.lift fun w => ?_)
    fun topic depth => deaf_onRead (ReadPath.deaf_subscribe topic depth)
  rw [replayDepth]
  cases s.write.cache <;> exact ⟨rfl, rfl⟩

theorem deaf_unsubscribe :
    Deaf (unsubscribe : Act (Checkpointer F Producer Consumer D) Unit) :=
  Deaf.closed.bind Deaf.get fun s => (ReadPath.deaf_unsubscribe s.topic).on _ _

end Subscribe

theorem deaf_replay :
    Deaf (replay : Operation (Checkpointer F Producer Consumer D) Replay.Summary).run := by
  refine Deaf.closed.try_bind (Deaf.closed.try_lift Deaf.get) fun s => ?_
  rcases s.read with ⟨_ | c, subscribed, _ | d⟩
  · exact Deaf.closed.try_throw _
  · exact Deaf.closed.try_throw _
  · exact Deaf.closed.try_throw _
  · refine Deaf.closed.try_bind (Deaf.closed.try_lift
      (Deaf.liftApply (Replay.Playback.deaf_run _ _ _) _)) ?_
    rintro ⟨result, q⟩
    refine Deaf.closed.try_bind (Deaf.closed.try_lift (Deaf.set _)) fun _ => ?_
    cases result with
    | ok summary => exact Deaf.closed.try_pure summary
    | error cause => exact Deaf.closed.try_throw _

/-- What is restored does not depend on what was told. -/
theorem deaf_restore :
    Deaf (restore : Operation (Checkpointer F Producer Consumer D) Replay.Summary).run :=
  Deaf.closed.restore Deaf.get deaf_subscribe deaf_replay deaf_unsubscribe

end Checkpointer

end PositionLog
