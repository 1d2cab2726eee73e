import PositionLog.Proofs.Checkpointer.Reports
import PositionLog.Proofs.Checkpointer.Steps
import PositionLog.Proofs.Scripted

/-!
# How a checkpointer releases its clients

A checkpointer gets its clients from its factory or from its owner.  Whatever it is asked to do, it
keeps them until it is stopped or dropped; then it closes them, the producer first, and after that
it calls neither of them again.
-/

namespace PositionLog.Release

open Scripted (Factory Producer Consumer)

/-- A checkpointer that works with scripted clients. -/
abbrev Staged (D : Type) := Checkpointer Factory Producer Consumer D

variable {D : Type}

/-- Which producer the checkpointer holds. -/
def producerOf (s : Staged D) : Option Nat := s.write.party

/-- Which consumer the checkpointer holds. -/
def consumerOf (s : Staged D) : Option Nat := s.read.consumer.map Consumer.party

/-- What is asked of a checkpointer.  To close it is to stop it. -/
inductive Ask (D : Type) where
  /-- To use a producer of the owner's, if it has none and is not stopped. -/
  | useProducer (x : Scripted.ProducerScript)
  /-- To use a consumer of the owner's, if it has none and is not stopped. -/
  | useConsumer (x : Scripted.ConsumerScript)
  | setAdapter (a : Adapter D)
  | init
  | start
  | publish (p : Position)
  | subscribe
  | unsubscribe
  | restore
  | stop

/-- A checkpointer does what it is asked to. -/
def Ask.run [Deserializer D] : Ask D → Act (Staged D) Unit
  | useProducer x => do
    let s ← get
    if s.isStopped || s.write.producer.isSome then return
    let producer ← x.create
    set (s.setProducer (some producer))
  | useConsumer x => do
    let s ← get
    if s.isStopped || s.read.consumer.isSome then return
    let consumer ← x.create
    set (s.setConsumer (some consumer))
  | setAdapter a => modify (·.withAdapter a)
  | init => do
    let _ ← Checkpointer.init.run
  | start => do
    let _ ← Checkpointer.start.run
  | publish p => do
    let _ ← (Checkpointer.publish p).run
  | subscribe => do
    let _ ← Checkpointer.subscribe.run
  | unsubscribe => Checkpointer.unsubscribe
  | restore => do
    let _ ← Checkpointer.restore.run
  | stop => Checkpointer.stop

/-! ## Before it is stopped -/

/-- What a step shows that keeps the clients: whether the checkpointer is stopped, and which clients
it holds. -/
def view (s : Staged D) : Bool × Option Nat × Option Nat :=
  (s.isStopped, producerOf s, consumerOf s)

/-- Which consumer there is on a read path. -/
def readParty (s : ReadPath Consumer D) : Option Nat := s.consumer.map Consumer.party

section Calm

open Checkpointer

theorem calm_get : Calm view (get : Try Error (Staged D) (Staged D)).run :=
  fun _ w => ⟨rfl, .refl w⟩

theorem calm_publish (p : Position) : Calm view (publish p : Operation (Staged D) Unit).run := by
  refine (Calm.closed _).try_bind calm_get fun s => ?_
  cases s.isStopped with
  | true => exact (Calm.closed _).try_throw _
  | false =>
    change Calm view (Act.on write (fun write (s : Staged D) => { s with write })
      (WritePath.publish p).run)
    exact Calm.on (WritePath.calm_publish p) fun s _ h =>
      congrArg (fun party => (s.isStopped, party, consumerOf s)) h

theorem calm_onRead {α : Type} {x : Act (ReadPath Consumer D) α} (hx : Calm readParty x) :
    Calm view (Act.on read (fun read s => { s with read }) x : Act (Staged D) α) :=
  Calm.on hx fun s _ h => congrArg (fun party => (s.isStopped, producerOf s, party)) h

theorem calm_readSubscribe (topic : String) (depth : Nat) :
    Calm readParty (ReadPath.subscribe topic depth : Operation (ReadPath Consumer D) Unit).run := by
  rintro ⟨_ | c, _ | _, d⟩ w
  · exact ⟨rfl, .refl w⟩
  · exact ⟨rfl, .refl w⟩
  · let l : Option Listener := if 1 ≤ depth then some (.rewind ⟨depth⟩) else none
    let w₁ := w.withNotices (w.notices.push (.subscribing topic depth))
    have htold : w.Unclosed w₁ := .unseen (Nat.le_refl _) rfl
    obtain ⟨hparty, hw⟩ := Consumer.calm_subscribe topic l c w₁
    rcases hjoin : (LogConsumer.subscribe topic l c : StateM Shared _) w₁ with ⟨⟨result, c'⟩, w₂⟩
    have hstep : Consumer.subscribe topic l c w₁ = ((result, c'), w₂) := hjoin
    rw [Try.run_apply, hstep] at hparty hw
    rw [Try.run_apply, ReadPath.subscribe_of_answer hjoin]
    exact ⟨congrArg some hparty, htold.trans hw⟩
  · exact ⟨rfl, .refl w⟩

theorem calm_readUnsubscribe (topic : String) :
    Calm readParty (ReadPath.unsubscribe topic : Act (ReadPath Consumer D) Unit) := by
  rintro ⟨_ | c, subscribed, d⟩ w
  · exact ⟨rfl, .refl w⟩
  · obtain ⟨hparty, hw⟩ := Consumer.calm_unsubscribe c w
    rcases hleave : (LogConsumer.unsubscribe c : StateM Shared _) w with ⟨⟨result, c'⟩, w₁⟩
    have hstep : Consumer.unsubscribe c w = ((result, c'), w₁) := hleave
    rw [Try.run_apply, hstep] at hparty hw
    rw [ReadPath.unsubscribe_of_answer topic subscribed d hleave]
    cases result with
    | ok _ => exact ⟨congrArg some hparty, hw⟩
    | error cause => exact ⟨congrArg some hparty, hw.trans (.unseen (Nat.le_refl _) rfl)⟩

theorem calm_subscribe : Calm view (subscribe : Operation (Staged D) Unit).run := by
  refine (Calm.closed _).subscribe (Calm.get _) (fun s => Calm.lift fun w => ?_)
    fun topic depth => calm_onRead (calm_readSubscribe topic depth)
  rw [replayDepth_eq s w]
  exact .refl w

theorem calm_unsubscribe : Calm view (unsubscribe : Act (Staged D) Unit) :=
  (Calm.closed _).bind (Calm.get _) fun s => calm_onRead (calm_readUnsubscribe s.topic)

variable [Deserializer D] [Deserializer.Discreet D]

/-- The clients that a replay works with. -/
def playbackParties (s : Replay.Playback Consumer D Producer) :
    Option Nat × Option (Option Nat) :=
  (some s.consumer.party, s.toIntake.party)

theorem calm_run (timeout retries : Nat) (halt : HaltScope) :
    Calm playbackParties (Replay.Playback.run timeout retries halt :
      Request (Replay.Playback Consumer D Producer) Replay.Summary).run := by
  intro s w
  rw [Try.run_apply, Replay.Playback.run_apply]
  have hpoll : Calm playbackParties (Replay.Playback.poll timeout :
      Request (Replay.Playback Consumer D Producer) (List Record)).run := by
    change Calm playbackParties (Act.on Replay.Playback.consumer
      (fun consumer (s : Replay.Playback Consumer D Producer) => { s with consumer })
      (Consumer.poll timeout).run)
    exact Calm.on (Consumer.calm_poll timeout) fun s _ h =>
      congrArg (fun party => (some party, s.toIntake.party)) h
  have htake (key value : Bytes) : Calm playbackParties (Replay.Playback.take key value :
      Act (Replay.Playback Consumer D Producer) Bool) :=
    Calm.on (Deserializer.Discreet.calm key value) fun s _ h =>
      congrArg (fun party => (some s.consumer.party, party)) h
  exact ((Calm.closed _).run _).drain hpoll htake retries halt (s.rounds w) {} s w

theorem calm_replay : Calm view (replay : Operation (Staged D) Replay.Summary).run := by
  intro s w
  rw [Try.run_apply]
  rcases replay_cases s w with
    ⟨e, hreplay⟩ | ⟨c, subscribed, d, result, q, w', hread, hrun, hreplay⟩
  · rw [hreplay]
    exact ⟨rfl, .refl w⟩
  · obtain ⟨hparties, hw⟩ := calm_run s.settings.pollTimeout s.settings.retryCount s.settings.halt
      { consumer := c, deserializer := d, write := some s.write } w
    rw [Try.run_apply, hrun] at hparties hw
    obtain ⟨hconsumer, hwrite⟩ := Prod.mk.inj hparties
    obtain ⟨write, hq, hproducer⟩ := Option.map_eq_some_iff.mp hwrite
    have hview : view { s with
        write := q.write.getD s.write
        read := ⟨some q.consumer, subscribed, some q.deserializer⟩ } = view s := by
      rw [hq]
      exact congrArg₂ (fun producer consumer => (s.isStopped, producer, consumer)) hproducer
        (hconsumer.trans (congrArg (Option.map Consumer.party ∘ ReadPath.consumer) hread.symm))
    rw [hreplay]
    exact ⟨hview, hw⟩

theorem calm_restore : Calm view (restore : Operation (Staged D) Replay.Summary).run :=
  (Calm.closed _).restore (Calm.get _) calm_subscribe calm_replay calm_unsubscribe

omit [Deserializer D] [Deserializer.Discreet D] in
theorem calm_start : Calm view (start : Operation (Staged D) Unit).run := by
  rintro ⟨_, _, _ | _ | _ | _, _, _⟩ w <;> exact ⟨rfl, .unseen (Nat.le_refl _) rfl⟩

end Calm

/-- The clients that the checkpointer holds are known, and there are two of them. -/
structure Parted (s : Staged D) (w : Shared) : Prop where
  producer_lt : ∀ q, producerOf s = some q → q < w.parties
  consumer_lt : ∀ q, consumerOf s = some q → q < w.parties
  apart : ∀ q, producerOf s = some q → consumerOf s ≠ some q

/-- The checkpointer keeps its clients, and may get those that it lacks. -/
structure Carries (s : Staged D) (w : Shared) (s' : Staged D) (w' : Shared) : Prop where
  isStopped_eq : s'.isStopped = s.isStopped
  producer : ∀ q, producerOf s = some q → producerOf s' = some q
  consumer : ∀ q, consumerOf s = some q → consumerOf s' = some q
  parted : Parted s w → Parted s' w'
  unclosed : w.Unclosed w'

namespace Carries

variable {s s' s'' : Staged D} {w w' w'' : Shared}

theorem refl (s : Staged D) (w : Shared) : Carries s w s w :=
  ⟨rfl, fun _ => id, fun _ => id, id, .refl w⟩

theorem trans (h : Carries s w s' w') (h' : Carries s' w' s'' w'') : Carries s w s'' w'' :=
  ⟨h'.isStopped_eq.trans h.isStopped_eq, fun q hq => h'.producer q (h.producer q hq),
    fun q hq => h'.consumer q (h.consumer q hq), fun hs => h'.parted (h.parted hs),
    h.unclosed.trans h'.unclosed⟩

theorem of_view (h : view s' = view s) (hw : w.Unclosed w') : Carries s w s' w' := by
  obtain ⟨hstopped, hclients⟩ := Prod.mk.inj h
  obtain ⟨hproducer, hconsumer⟩ := Prod.mk.inj hclients
  refine ⟨hstopped, fun q hq => hproducer.trans hq, fun q hq => hconsumer.trans hq, fun hs => ?_,
    hw⟩
  have hle := hw.parties_le
  exact ⟨fun q hq => Nat.lt_of_lt_of_le (hs.producer_lt q (hproducer.symm.trans hq)) hle,
    fun q hq => Nat.lt_of_lt_of_le (hs.consumer_lt q (hconsumer.symm.trans hq)) hle,
    fun q hq hq' => hs.apart q (hproducer.symm.trans hq) (hconsumer.symm.trans hq')⟩

theorem of_calm {α : Type} {x : Act (Staged D) α} (hx : Calm view x) (s : Staged D) (w : Shared) :
    Carries s w (x s w).1.2 (x s w).2 :=
  of_view (hx s w).1 (hx s w).2

/-- A producer joins. -/
theorem of_newProducer (hstopped : s'.isStopped = s.isStopped) (hnone : producerOf s = none)
    (hnew : producerOf s' = some w.parties) (hconsumer : consumerOf s' = consumerOf s)
    (hparties : w'.parties = w.parties + 1) (hw : w.Unclosed w') : Carries s w s' w' where
  isStopped_eq := hstopped
  producer q hq := by
    rw [hnone] at hq
    cases hq
  consumer q hq := hconsumer.trans hq
  parted hs := by
    have hlt (q : Nat) (hq : consumerOf s' = some q) : q < w.parties :=
      hs.consumer_lt q (hconsumer.symm.trans hq)
    refine ⟨fun q hq => ?_, fun q hq => ?_, fun q hq hq' => ?_⟩
    · rw [hnew] at hq
      cases hq
      rw [hparties]
      exact Nat.lt_succ_self _
    · rw [hparties]
      exact Nat.lt_succ_of_lt (hlt q hq)
    · rw [hnew] at hq
      cases hq
      exact Nat.lt_irrefl _ (hlt _ hq')
  unclosed := hw

/-- A consumer joins. -/
theorem of_newConsumer (hstopped : s'.isStopped = s.isStopped) (hnone : consumerOf s = none)
    (hnew : consumerOf s' = some w.parties) (hproducer : producerOf s' = producerOf s)
    (hparties : w'.parties = w.parties + 1) (hw : w.Unclosed w') : Carries s w s' w' where
  isStopped_eq := hstopped
  producer q hq := hproducer.trans hq
  consumer q hq := by
    rw [hnone] at hq
    cases hq
  parted hs := by
    have hlt (q : Nat) (hq : producerOf s' = some q) : q < w.parties :=
      hs.producer_lt q (hproducer.symm.trans hq)
    refine ⟨fun q hq => ?_, fun q hq => ?_, fun q hq hq' => ?_⟩
    · rw [hparties]
      exact Nat.lt_succ_of_lt (hlt q hq)
    · rw [hnew] at hq
      cases hq
      rw [hparties]
      exact Nat.lt_succ_self _
    · rw [hnew] at hq'
      cases hq'
      exact Nat.lt_irrefl _ (hlt _ hq)
  unclosed := hw

end Carries

section Steps

open Checkpointer

variable (s : Staged D) (w : Shared)

theorem carries_createConsumer :
    Carries s w (createConsumer s w).1.2 (createConsumer s w).2 := by
  rcases s with ⟨_, ⟨_, _, _ | ⟨_ | _, _⟩⟩, _, _, ⟨_ | _, _, _⟩⟩
  · exact .of_newConsumer rfl rfl rfl rfl rfl (.seen (Nat.le_succ _) rfl rfl)
  · exact .refl _ w
  · exact .of_view rfl (.seen (Nat.le_refl _) rfl rfl)
  · exact .refl _ w
  · exact .of_newConsumer rfl rfl rfl rfl rfl (.seen (Nat.le_succ _) rfl rfl)
  · exact .refl _ w

theorem carries_createProducer :
    Carries s w (createProducer s w).1.2 (createProducer s w).2 := by
  rcases s with ⟨_, ⟨_, _ | ⟨_ | _, _⟩, _⟩, _, ⟨_, _ | _, _⟩, _⟩
  · exact .of_newProducer rfl rfl rfl rfl rfl (.seen (Nat.le_succ _) rfl rfl)
  · exact .refl _ w
  · exact .of_view rfl (.seen (Nat.le_refl _) rfl rfl)
  · exact .refl _ w
  · exact .of_newProducer rfl rfl rfl rfl rfl (.seen (Nat.le_succ _) rfl rfl)
  · exact .refl _ w

theorem carries_finishInit : Carries s w (finishInit s) w := by
  rcases s with ⟨_, _, _ | _ | _ | _, _, _⟩ <;> exact .of_view rfl (.refl w)

theorem closed_carries : Act.Closed fun {α : Type} (x : Act (Staged D) α) =>
    ∀ s w, Carries s w (x s w).1.2 (x s w).2 where
  pure _ s w := .refl s w
  bind hx hg s w := (hx s w).trans (hg _ _ _)
  tell _ _ _ := .of_view rfl (.unseen (Nat.le_refl _) rfl)

/-- The factory may create both clients, or one, or neither. -/
theorem carries_init : Carries s w (init s w).1.2 (init s w).2 :=
  closed_carries.init .refl carries_createConsumer carries_createProducer carries_finishInit s w

theorem carries_useProducer [Deserializer D] (x : Scripted.ProducerScript) :
    Carries s w ((Ask.useProducer x).run s w).1.2 ((Ask.useProducer x).run s w).2 := by
  rw [Ask.run, Act.bind_of_eq (Act.get_apply s w)]
  cases hstopped : s.isStopped with
  | true => exact .refl s w
  | false =>
    cases hproducer : s.write.producer with
    | some p => exact .refl s w
    | none =>
      have hnone : producerOf s = none := congrArg (Option.map Producer.party) hproducer
      exact .of_newProducer rfl hnone rfl rfl rfl (.unseen (Nat.le_succ _) rfl)

theorem carries_useConsumer [Deserializer D] (x : Scripted.ConsumerScript) :
    Carries s w ((Ask.useConsumer x).run s w).1.2 ((Ask.useConsumer x).run s w).2 := by
  rw [Ask.run, Act.bind_of_eq (Act.get_apply s w)]
  cases hstopped : s.isStopped with
  | true => exact .refl s w
  | false =>
    cases hconsumer : s.read.consumer with
    | some c => exact .refl s w
    | none =>
      have hnone : consumerOf s = none := congrArg (Option.map Consumer.party) hconsumer
      exact .of_newConsumer rfl hnone rfl rfl rfl (.unseen (Nat.le_succ _) rfl)

variable [Deserializer D] [Deserializer.Discreet D]

/-- A checkpointer that is not asked to stop keeps its clients. -/
theorem Ask.run_carries {a : Ask D} (h : a ≠ .stop) :
    Carries s w (a.run s w).1.2 (a.run s w).2 := by
  cases a with
  | useProducer x => exact carries_useProducer s w x
  | useConsumer x => exact carries_useConsumer s w x
  | setAdapter a => exact .of_view rfl (.refl w)
  | init => exact carries_init s w
  | start => exact .of_calm calm_start s w
  | publish p => exact .of_calm (calm_publish p) s w
  | subscribe => exact .of_calm calm_subscribe s w
  | unsubscribe => exact .of_calm calm_unsubscribe s w
  | restore => exact .of_calm calm_restore s w
  | stop => exact absurd rfl h

theorem forM_run_carries {asks : List (Ask D)} (h : .stop ∉ asks) :
    Carries s w (asks.forM Ask.run s w).1.2 (asks.forM Ask.run s w).2 := by
  induction asks generalizing s w with
  | nil => exact .refl s w
  | cons a asks ih =>
    have hstep := Ask.run_carries s w fun ha => h (ha ▸ List.mem_cons_self)
    exact hstep.trans (ih _ _ fun hmem => h (List.mem_cons_of_mem a hmem))

end Steps

/-! ## Once it is stopped -/

/-- The checkpointer has stopped, holds no client, and is not subscribed. -/
structure Released (s : Staged D) : Prop where
  stopped : s.phase = .stopped
  producer : s.write.producer = none
  consumer : s.read.consumer = none
  unsubscribed : s.read.subscribed = false

/-- These clients are closed, the producer first. -/
def closing (p c : Option Nat) : List Observation :=
  p.toList.map (fun q => .called q .closeProducer) ++
    c.toList.map fun q => .called q .closeConsumer

section Stop

open Checkpointer

variable (s : Staged D) (w : Shared)

/-- The producer is closed and given up, even if closing it fails. -/
theorem closeProducer_apply :
    ∃ w', closeProducer s w = (((), s.setProducer none), w') ∧
      w'.observations.toList = w.observations.toList ++ closing (producerOf s) none := by
  rcases s with ⟨_, _, _, ⟨_, _ | ⟨_, _, _ | ⟨_ | _, _⟩⟩, _⟩, _⟩
  · exact ⟨w, rfl, (List.append_nil _).symm⟩
  · exact ⟨_, rfl, Log.toList_push _ _⟩
  · exact ⟨_, rfl, Log.toList_push _ _⟩
  · exact ⟨_, rfl, Log.toList_push _ _⟩

theorem closeConsumer_apply :
    ∃ w', closeConsumer s w = (((), s.setConsumer none), w') ∧
      w'.observations.toList = w.observations.toList ++ closing none (consumerOf s) := by
  rcases s with ⟨_, _, _, _, ⟨_ | ⟨_, _, _, _, _ | ⟨_ | _, _⟩, _⟩, _, _⟩⟩
  · exact ⟨w, rfl, (List.append_nil _).symm⟩
  · exact ⟨_, rfl, Log.toList_push _ _⟩
  · exact ⟨_, rfl, Log.toList_push _ _⟩
  · exact ⟨_, rfl, Log.toList_push _ _⟩

/-- To stop for the first time is to close both clients, and nothing else. -/
theorem stop_apply (h : s.isStopped = false) :
    ∃ s' w', stop s w = (((), s'), w') ∧ Released s' ∧
      w'.observations.toList =
        w.observations.toList ++ closing (producerOf s) (consumerOf s) := by
  let s₀ : Staged D := { s with phase := .stopped }
  obtain ⟨w₁, hproducer, hobs₁⟩ := closeProducer_apply s₀ w
  obtain ⟨w₂, hconsumer, hobs₂⟩ := closeConsumer_apply (s₀.setProducer none) w₁
  rw [stop, Act.bind_of_eq (Act.get_apply s w), h, if_neg Bool.false_ne_true]
  dsimp only
  rw [Act.bind_of_eq (Act.modify_apply _ s w), Act.bind_of_eq hproducer, Act.bind_of_eq hconsumer]
  refine ⟨_, w₂, rfl, ⟨rfl, rfl, rfl, rfl⟩, ?_⟩
  rw [hobs₂, hobs₁, List.append_assoc, closing, closing, closing]
  exact congrArg (_ ++ ·) (congrArg (· ++ _) (List.append_nil _))

variable {s} [Deserializer D]

/-- Whatever is asked of it then, nothing is called any more. -/
theorem Ask.run_released (hs : Released s) (a : Ask D) :
    ∃ s' w', a.run s w = (((), s'), w') ∧ Released s' ∧ w'.observations = w.observations := by
  obtain ⟨settings, factory, phase, ⟨writer, producer, cache⟩, consumer, subscribed, d⟩ := s
  obtain ⟨rfl, rfl, rfl, rfl⟩ := hs
  cases a with
  | restore => cases d <;> exact ⟨_, w, rfl, ⟨rfl, rfl, rfl, rfl⟩, rfl⟩
  | _ => exact ⟨_, w, rfl, ⟨rfl, rfl, rfl, rfl⟩, rfl⟩

theorem forM_run_released (hs : Released s) (asks : List (Ask D)) :
    ∃ s' w', asks.forM Ask.run s w = (((), s'), w') ∧ Released s' ∧
      w'.observations = w.observations := by
  induction asks generalizing s w with
  | nil => exact ⟨s, w, rfl, hs, rfl⟩
  | cons a asks ih =>
    obtain ⟨s₁, w₁, hrun, hs₁, hobs₁⟩ := a.run_released w hs
    obtain ⟨s₂, w₂, hrest, hs₂, hobs₂⟩ := ih w₁ hs₁
    exact ⟨s₂, w₂, (Act.forM_cons_of_eq hrun asks).trans hrest, hs₂, hobs₂.trans hobs₁⟩

omit [Deserializer D] in
theorem drop_released (hs : Released s) : drop s w = ((), w) := by
  have hstopped : s.isStopped = true := decide_eq_true hs.stopped
  rw [drop, Shared.bind_apply]
  rw [stop_of_stopped hstopped w]
  rfl

end Stop

/-! ## From its creation until it is dropped -/

/-- What comes before the first `a`, seen from all that comes first. -/
theorem exists_before {α : Type} (a : α) (l : List α) :
    ∃ before, a ∉ before ∧ before <+: l ∧ (∀ n, a ∉ l.take n → l.take n <+: before) ∧
      ∀ n, a ∈ l.take n → ∃ after, l.take n = before ++ a :: after := by
  induction l with
  | nil =>
    refine ⟨[], nofun, List.prefix_rfl, fun n _ => ?_, fun n hn => ?_⟩
    · rw [List.take_nil]
    · rw [List.take_nil] at hn
      cases hn
  | cons b l ih =>
    by_cases hb : b = a
    · subst hb
      refine ⟨[], nofun, List.nil_prefix, fun n hn => ?_, fun n hn => ?_⟩
      · cases n with
        | zero => exact List.prefix_rfl
        | succ n => exact absurd List.mem_cons_self hn
      · cases n with
        | zero => cases hn
        | succ n => exact ⟨l.take n, rfl⟩
    · obtain ⟨before, hnot, hprefix, hbefore, hafter⟩ := ih
      refine ⟨b :: before, ?_, List.cons_prefix_cons.mpr ⟨rfl, hprefix⟩, fun n hn => ?_,
        fun n hn => ?_⟩
      · exact fun h => (List.mem_cons.mp h).elim (fun h => hb h.symm) hnot
      · cases n with
        | zero => exact List.nil_prefix
        | succ n =>
          have hrest : a ∉ l.take n := fun h => hn (List.mem_cons_of_mem b h)
          exact List.cons_prefix_cons.mpr ⟨rfl, hbefore n hrest⟩
      · cases n with
        | zero => cases hn
        | succ n =>
          obtain ⟨after, hl⟩ := hafter n ((List.mem_cons.mp hn).resolve_left (Ne.symm hb))
          exact ⟨after, congrArg (b :: ·) hl⟩

section Life

open Checkpointer

variable [Deserializer D]

theorem forM_run_append (asks asks' : List (Ask D)) (s : Staged D) (w : Shared) :
    (asks ++ asks').forM Ask.run s w =
      asks'.forM Ask.run (asks.forM Ask.run s w).1.2 (asks.forM Ask.run s w).2 := by
  induction asks generalizing s w with
  | nil => rfl
  | cons a asks ih => exact ih (a.run s w).1.2 (a.run s w).2

/-- What becomes of a checkpointer that is asked this. -/
def reach (asks : List (Ask D)) (x : Staged D × Shared) : Staged D × Shared :=
  ((asks.forM Ask.run x.1 x.2).1.2, (asks.forM Ask.run x.1 x.2).2)

theorem reach_append (asks asks' : List (Ask D)) (x : Staged D × Shared) :
    reach (asks ++ asks') x = reach asks' (reach asks x) := by
  rw [reach, forM_run_append]
  rfl

variable [Deserializer.Discreet D]

/-- The last moment at which the checkpointer is not stopped, and still holds its clients; and what
is seen when they are closed. -/
theorem exists_last (asks : List (Ask D)) {x : Staged D × Shared} (h : x.1.isStopped = false) :
    ∃ (n : Nat) (s : Staged D) (w w' : Shared), reach (asks.take n) x = (s, w) ∧
      Carries x.1 x.2 s w ∧
      w'.observations.toList = w.observations.toList ++ closing (producerOf s) (consumerOf s) ∧
      (∀ m, .stop ∉ asks.take m →
        Carries x.1 x.2 (reach (asks.take m) x).1 (reach (asks.take m) x).2 ∧
        Carries (reach (asks.take m) x).1 (reach (asks.take m) x).2 s w) ∧
      (∀ m, .stop ∈ asks.take m → Released (reach (asks.take m) x).1 ∧
        (reach (asks.take m) x).2.observations = w'.observations) ∧
      (drop (reach asks x).1 (reach asks x).2).2.observations = w'.observations := by
  obtain ⟨before, hnot, hprefix, hbefore, hafter⟩ := exists_before .stop asks
  have hcarries := forM_run_carries x.1 x.2 hnot
  obtain ⟨s₂, w₂, hstop, hreleased, hclosed⟩ :=
    stop_apply (reach before x).1 (reach before x).2 (hcarries.isStopped_eq.trans h)
  have hgone (m : Nat) (hm : .stop ∈ asks.take m) : Released (reach (asks.take m) x).1 ∧
      (reach (asks.take m) x).2.observations = w₂.observations := by
    obtain ⟨rest, hrest⟩ := hafter m hm
    obtain ⟨s₃, w₃, hrun, hs₃, hw₃⟩ := forM_run_released w₂ hreleased rest
    have hstopped : Ask.run .stop (reach before x).1 (reach before x).2 = (((), s₂), w₂) := hstop
    have hall : reach (asks.take m) x = (s₃, w₃) := by
      rw [hrest, reach_append, reach, Act.forM_cons_of_eq hstopped, hrun]
    rw [hall]
    exact ⟨hs₃, hw₃⟩
  refine ⟨before.length, _, _, w₂, ?_, hcarries, hclosed, fun m hm => ⟨?_, ?_⟩, hgone, ?_⟩
  · rw [← List.prefix_iff_eq_take.mp hprefix]
    rfl
  · exact forM_run_carries x.1 x.2 hm
  · obtain ⟨rest, rfl⟩ := hbefore m hm
    have hrest : .stop ∉ rest := fun h => hnot (List.mem_append_right _ h)
    rw [forM_run_append]
    exact forM_run_carries _ _ hrest
  · by_cases hmem : .stop ∈ asks
    · rw [← asks.take_length] at hmem
      obtain ⟨hend, hsame⟩ := hgone asks.length hmem
      rw [List.take_length] at hend hsame
      rw [drop_released _ hend, hsame]
    · rw [← asks.take_length] at hmem
      have hall := hbefore asks.length hmem
      rw [List.take_length] at hall
      obtain rfl : before = asks := hprefix.eq_of_length_le hall.length_le
      rw [drop, Shared.bind_apply, hstop]
      rfl

/-- A checkpointer closes each client that it ever held exactly once, and nothing else, and calls no
client that it has closed: all calls of its life come before the closing of one producer and then of
one consumer, or only one of them, or neither, whatever its factory and its clients answer.  It
closes them when it is first stopped, or else when it is dropped, and once it was stopped it holds
no client and is not subscribed. -/
theorem clients_closed_once (settings : Settings) (factory : Factory) (asks : List (Ask D))
    (w : Shared) :
    let created : Staged D × Shared := create settings factory w
    let dropped := (drop (reach asks created).1 (reach asks created).2).2
    ∃ (p c : Option Nat) (during : List Observation),
      dropped.observations.toList = w.observations.toList ++ during ++ closing p c ∧
      (∀ o ∈ during, o.closes = false) ∧ (∀ q, p = some q → c ≠ some q) ∧
      (∀ q, (∃ n, producerOf (reach (asks.take n) created).1 = some q) ↔ p = some q) ∧
      (∀ q, (∃ n, consumerOf (reach (asks.take n) created).1 = some q) ↔ c = some q) ∧
      ∀ n, (.stop ∈ asks.take n → Released (reach (asks.take n) created).1 ∧
          (reach (asks.take n) created).2.observations = dropped.observations) ∧
        (.stop ∉ asks.take n → (reach (asks.take n) created).1.isStopped = false ∧
          (reach (asks.take n) created).2.observations.toList <+:
            w.observations.toList ++ during) := by
  intro created dropped
  obtain ⟨m, s, w₁, w₂, hlast, hlife, hclosed, hheld, hgone, hdropped⟩ :=
    exists_last asks (rfl : created.1.isStopped = false)
  obtain ⟨during, hduring, hcloses⟩ := hlife.unclosed.observed
  have hparted : Parted s w₁ := hlife.parted ⟨nofun, nofun, nofun⟩
  refine ⟨producerOf s, consumerOf s, during, ?_, hcloses, hparted.apart, fun q => ⟨?_, ?_⟩,
    fun q => ⟨?_, ?_⟩, fun n => ⟨fun hn => ?_, fun hn => ?_⟩⟩
  · rw [hdropped, hclosed, hduring]
    rfl
  · rintro ⟨n, hn⟩
    by_cases hmem : .stop ∈ asks.take n
    · rw [producerOf, WritePath.party, (hgone n hmem).1.producer] at hn
      cases hn
    · exact (hheld n hmem).2.producer q hn
  · intro hq
    refine ⟨m, ?_⟩
    rw [hlast]
    exact hq
  · rintro ⟨n, hn⟩
    by_cases hmem : .stop ∈ asks.take n
    · rw [consumerOf, (hgone n hmem).1.consumer] at hn
      cases hn
    · exact (hheld n hmem).2.consumer q hn
  · intro hq
    refine ⟨m, ?_⟩
    rw [hlast]
    exact hq
  · obtain ⟨hreleased, hsame⟩ := hgone n hn
    exact ⟨hreleased, hsame.trans hdropped.symm⟩
  · obtain ⟨hfirst, hrest⟩ := hheld n hn
    obtain ⟨rest, hseen, -⟩ := hrest.unclosed.observed
    refine ⟨hfirst.isStopped_eq, rest, ?_⟩
    rw [← hseen, hduring]
    rfl

end Life

/-- The only producer of this factory cannot be closed without a failure. -/
def unruly : Factory where
  party := 0
  producers := [.ok { closes := [some (.kafka "flush timed out")] }]

/-- A checkpointer that is stopped twice, and then dropped. -/
theorem clients_closed_once_of_unruly :
    ∃ during : List Observation,
      let created : Staged Scripted.Deserializer × Shared :=
        Checkpointer.create default unruly { parties := 1 }
      let last := reach [.init, .publish ⟨"a", 1⟩, .subscribe, .stop, .init, .stop] created
      (Checkpointer.drop last.1 last.2).2.observations.toList =
        during ++ [.called 2 .closeProducer, .called 1 .closeConsumer] ∧
      ∀ o ∈ during, o.closes = false := by
  obtain ⟨p, c, during, hobs, hcloses, -, hp, hc, -⟩ :=
    clients_closed_once (default : Settings) unruly
      ([.init, .publish ⟨"a", 1⟩, .subscribe, .stop, .init, .stop] :
        List (Ask Scripted.Deserializer)) { parties := 1 }
  obtain rfl : p = some 2 := (hp 2).mp ⟨1, rfl⟩
  obtain rfl : c = some 1 := (hc 1).mp ⟨1, rfl⟩
  exact ⟨during, hobs, hcloses⟩

end PositionLog.Release
