import PositionLog.Broker.Factory
import PositionLog.Proofs.Checkpointer.Restore
import PositionLog.Proofs.Replay.Lawful

/-!
# Whether a checkpointer is subscribed

A checkpointer remembers whether its consumer has joined the topic.  This stays true of a consumer
of the broker in memory, whatever the checkpointer is asked to do, until it is given another
consumer while it is subscribed: it takes that one to be subscribed as well, and cannot restore with
it.  Once it is not subscribed any more, it knows again.
-/

namespace PositionLog

section Succeeds

variable {S α : Type}

/-- A step that does not fail where `I` holds, and keeps it. -/
def Try.Succeeds {ε : Type} (I : S → Prop) (x : Try ε S α) : Prop :=
  ∀ s w, I s → ∃ a s' w', x s w = ((.ok a, s'), w') ∧ I s'

theorem Try.closed_succeeds (ε : Type) (I : S → Prop) :
    Try.Closed ε (Act.Keeps I) (Try.Succeeds I) where
  toClosed := Act.closed_keeps I
  try_pure a s w h := ⟨a, s, w, rfl, h⟩
  try_bind hx hg s w h := by
    obtain ⟨a, s₁, w₁, hstep, h₁⟩ := hx s w h
    obtain ⟨b, s₂, w₂, hrest, h₂⟩ := hg a s₁ w₁ h₁
    exact ⟨b, s₂, w₂, (Try.bind_of_ok hstep).trans hrest, h₂⟩
  try_lift hx s w h := ⟨_, _, _, Try.liftAct_apply _ s w, hx s w h⟩

end Succeeds

section RestoreEnds

variable {F P C D : Type} [LogProducer P] [LogConsumer C] [Deserializer D]

/-- The replay of a restore would come to the same if it were given more rounds. -/
def Checkpointer.RestoreEnds (s : Checkpointer F P C D) (w : Shared) : Prop :=
  ∀ s₁ w₁ c subscribed d, subscribe s w = ((.ok (), s₁), w₁) →
    s₁.read = ⟨some c, subscribed, some d⟩ →
      Replay.Playback.Ends s₁.settings.pollTimeout s₁.settings.retryCount s₁.settings.halt
        { consumer := c, deserializer := d, write := some s₁.write }
        (w₁.withNotices (w₁.notices.push (.loading s.topic)))

theorem Checkpointer.restoreEnds_of_lawful [LawfulProducer P] [LawfulConsumer C]
    [LawfulDeserializer D] (s : Checkpointer F P C D) (w : Shared) : s.RestoreEnds w :=
  fun _ _ _ _ _ _ _ => Replay.Playback.ends_of_lawful _ _ _ _ _

end RestoreEnds

open Broker (Consumer Factory Producer)

/-- The consumer is open, and has joined the topic. -/
structure Broker.Consumer.Reads (topic : String) (c : Consumer) : Prop where
  opened : c.closed = false
  joined : ∃ sub, c.subscription = some sub ∧ sub.topic = topic

/-- The consumer is open, and has joined no topic. -/
structure Broker.Consumer.Idle (c : Consumer) : Prop where
  opened : c.closed = false
  apart : c.subscription = none

/-- A consumer that has joined its topic can always be polled. -/
theorem Broker.Consumer.succeeds_poll (topic : String) :
    Try.Succeeds (Reads topic) Consumer.poll := by
  rintro c w ⟨hopen, sub, hsub, htopic⟩
  rcases ha : sub.assign w with ⟨positions, w'⟩
  cases hk : c.stalledPolls with
  | zero => exact ⟨_, _, _, poll_apply hopen hsub ha hk, hopen, _, rfl, htopic⟩
  | succ k => exact ⟨_, _, _, poll_of_stalled hopen hsub ha hk, hopen, _, rfl, htopic⟩

/-- An open consumer can always leave its topic, if it has joined one. -/
theorem Broker.Consumer.unsubscribe_of_opened {c : Consumer} (hopen : c.closed = false)
    (w : Shared) : ∃ w', Consumer.unsubscribe c w = ((.ok (), c.left), w') := by
  rcases c with ⟨_ | ⟨topic, _ | _ | _, positions⟩, closed, _, _, _, _, _⟩ <;>
    obtain rfl : closed = false := hopen <;> exact ⟨_, rfl⟩

/-- The read path knows whether its consumer has joined the topic, unless this is `stale`: the
consumer was replaced while it was subscribed. -/
inductive ReadPath.Known {D : Type} (topic : String) :
    (stale : Bool) → ReadPath Consumer D → Prop where
  | absent (d : Option D) : Known topic false ⟨none, false, d⟩
  | apart (c : Consumer) (d : Option D) (h : c.Idle) : Known topic false ⟨some c, false, d⟩
  | joined (c : Consumer) (d : Option D) (h : c.Reads topic) : Known topic false ⟨some c, true, d⟩
  | replaced (c : Consumer) (d : Option D) (h : c.Idle) : Known topic true ⟨some c, true, d⟩

namespace ReadPath

variable {D : Type} {topic : String} {stale : Bool} {s : ReadPath Consumer D}

theorem Known.subscribed_of_stale (h : s.Known topic stale) (hstale : stale = true) :
    s.subscribed = true := by
  cases h with
  | replaced c d hc => rfl
  | absent | apart | joined => cases hstale

theorem Known.joined_iff (h : s.Known topic stale) :
    (∃ c sub, s.consumer = some c ∧ c.subscription = some sub ∧ sub.topic = topic) ↔
      s.subscribed = true ∧ stale = false := by
  constructor
  · rintro ⟨c, sub, hc, hsub, -⟩
    cases h with
    | absent d => cases hc
    | joined c' d hc' => exact ⟨rfl, rfl⟩
    | apart c' d hc' | replaced c' d hc' =>
      cases hc
      rw [hc'.apart] at hsub
      cases hsub
  · rintro ⟨hs, hkept⟩
    cases h with
    | absent | apart => cases hs
    | replaced => cases hkept
    | joined c d hc =>
      obtain ⟨sub, hsub, htopic⟩ := hc.joined
      exact ⟨c, sub, rfl, hsub, htopic⟩

theorem Known.of_consumer {c : Consumer} (h : if stale then c.Idle else c.Reads topic)
    (d : Option D) : Known topic stale ⟨some c, true, d⟩ := by
  cases stale with
  | true => exact .replaced c d h
  | false => exact .joined c d h

/-- A topic can be joined unless there is no consumer. -/
theorem Known.subscribe (h : s.Known topic stale) (depth : Nat) (w : Shared) :
    (∃ w', ReadPath.subscribe topic depth s w = ((.error .notInitialized, s), w') ∧
      s.consumer = none) ∨
    ∃ c w', ReadPath.subscribe topic depth s w =
        ((.ok (), ⟨some c, true, s.deserializer⟩), w') ∧
      if stale then c.Idle else c.Reads topic := by
  cases h with
  | absent d => exact .inl ⟨w, rfl, rfl⟩
  | apart c d hc =>
    exact .inr ⟨_, _, subscribe_of_opened hc.opened d topic depth w, hc.opened, _, rfl, rfl⟩
  | joined c d hc => exact .inr ⟨c, w, rfl, hc⟩
  | replaced c d hc => exact .inr ⟨c, w, rfl, hc⟩

/-- A topic can be left in any case, and then it is known that it was. -/
theorem Known.unsubscribe (h : s.Known topic stale) (w : Shared) :
    ∃ c w', ReadPath.unsubscribe topic s w = (((), ⟨c, false, s.deserializer⟩), w') ∧
      Known topic false ⟨c, false, s.deserializer⟩ := by
  have hleave {c : Consumer} (hopen : c.closed = false) (subscribed : Bool) (d : Option D) :
      ∃ w', ReadPath.unsubscribe topic ⟨some c, subscribed, d⟩ w =
        (((), ⟨some c.left, false, d⟩), w') := by
    obtain ⟨w', hunsub⟩ := Consumer.unsubscribe_of_opened hopen w
    have hleave : (LogConsumer.unsubscribe c : StateM Shared _) w = ((.ok (), c.left), w') := hunsub
    exact ⟨w', unsubscribe_of_answer topic subscribed d hleave⟩
  cases h with
  | absent d => exact ⟨none, w, rfl, .absent d⟩
  | apart c d hc =>
    obtain ⟨w', hunsub⟩ := hleave hc.opened false d
    exact ⟨_, w', hunsub, .apart c.left d ⟨hc.opened, rfl⟩⟩
  | joined c d hc | replaced c d hc =>
    obtain ⟨w', hunsub⟩ := hleave hc.opened true d
    exact ⟨_, w', hunsub, .apart c.left d ⟨hc.opened, rfl⟩⟩

end ReadPath

namespace Subscribed

open Checkpointer

variable {D : Type}

/-- A checkpointer over a broker in memory. -/
abbrev InMemory (D : Type) := Checkpointer Factory Producer Consumer D

/-- What is asked of a checkpointer.  A consumer that is given to it has joined no topic. -/
inductive Ask (D : Type) where
  | useProducer (producer : Producer)
  | useConsumer (c : Consumer) (h : c.Idle)
  | setAdapter (a : Adapter D)
  | init
  | start
  | publish (p : Position)
  | subscribe
  | unsubscribe
  | restore
  | stop

namespace Ask

/-- A checkpointer does what it is asked to. -/
def run [Deserializer D] : Ask D → Act (InMemory D) Unit
  | useProducer producer => modify (·.setProducer (some producer))
  | useConsumer c _ => modify (·.setConsumer (some c))
  | setAdapter a => modify (·.withAdapter a)
  | init => do
    let _ ← Checkpointer.init.run
  | start => do
    let _ ← Checkpointer.start.run
  | publish p => do
    let _ ← (Checkpointer.publish p).run
  | subscribe => do
    let _ ← Checkpointer.subscribe.run
  | unsubscribe => Checkpointer.unsubscribe
  | restore => do
    let _ ← Checkpointer.restore.run
  | stop => Checkpointer.stop

def givesConsumer : Ask D → Bool
  | useConsumer .. => true
  | _ => false

end Ask

/-- Whether what the checkpointer knows of its consumer is stale in the end: it was given the
consumer while it was subscribed, and has been subscribed ever since. -/
def staleAfter [Deserializer D] (s : InMemory D) (w : Shared) (stale : Bool) : List (Ask D) → Bool
  | [] => stale
  | a :: asks =>
    let x := a.run s w
    staleAfter x.1.2 x.2 (x.1.2.isSubscribed && (stale || a.givesConsumer)) asks

/-- The checkpointer has these settings, and knows whether it is subscribed. -/
structure Honest (settings : Settings) (stale : Bool) (s : InMemory D) : Prop where
  settings_eq : s.settings = settings
  read : s.read.Known settings.topic stale

variable {settings : Settings} {stale : Bool} {s s' : InMemory D}

namespace Honest

/-- Only the read path and the settings matter. -/
theorem of_eq (h : Honest settings stale s) (hs : s'.settings = s.settings)
    (hread : s'.read = s.read) : Honest settings stale s' :=
  ⟨hs.trans h.settings_eq, hread ▸ h.read⟩

theorem of_read (h : Honest settings stale s) {stale' : Bool} {r : ReadPath Consumer D}
    (hr : r.Known settings.topic stale') : Honest settings stale' { s with read := r } :=
  ⟨h.settings_eq, hr⟩

/-- What was stale is so as long as the checkpointer is subscribed. -/
theorem kept (h : Honest settings stale s) :
    Honest settings (s.isSubscribed && (stale || false)) s := by
  have hstale : (s.isSubscribed && (stale || false)) = stale := by
    cases hs : stale with
    | false => exact Bool.and_false _
    | true =>
      rw [Bool.or_false, Bool.and_true]
      exact h.read.subscribed_of_stale hs
  rw [hstale]
  exact h

/-- Nothing is stale once the checkpointer is not subscribed. -/
theorem left (h : Honest settings false s) (hs : s.isSubscribed = false) (stale : Bool) :
    Honest settings (s.isSubscribed && stale) s := by
  rw [hs]
  exact h

/-! ## Reading back -/

/-- The checkpointer joins the topic, unless it is stopped or has no consumer. -/
theorem subscribe (h : Honest settings stale s) (w : Shared) :
    (∃ e w', subscribe s w = ((.error e, s), w') ∧
      (s.isStopped = true ∨ s.read.consumer = none)) ∨
    ∃ c w', subscribe s w =
        ((.ok (), { s with read := ⟨some c, true, s.read.deserializer⟩ }), w') ∧
      if stale then c.Idle else c.Reads settings.topic := by
  rw [Checkpointer.subscribe, Try.bind_of_ok (Try.get_apply s w)]
  cases hstopped : s.isStopped with
  | true => exact .inl ⟨.stopped, w, rfl, .inl rfl⟩
  | false =>
    obtain rfl := h.settings_eq
    rw [if_neg Bool.false_ne_true]
    dsimp only
    rw [Try.bind_of_ok (Try.lift_of_eq (replayDepth_apply s w)), onRead, Try.on_apply, topic]
    rcases h.read.subscribe (s.depth w) w with ⟨w', hjoin, hnone⟩ | ⟨c, w', hjoin, hc⟩
    · rw [hjoin]
      exact .inl ⟨.notInitialized, w', rfl, .inr hnone⟩
    · rw [hjoin]
      exact .inr ⟨c, w', rfl, hc⟩

/-- The checkpointer leaves the topic. -/
theorem unsubscribe (h : Honest settings stale s) (w : Shared) :
    ∃ s' w', unsubscribe s w = (((), s'), w') ∧ Honest settings false s' ∧
      s'.isSubscribed = false := by
  obtain rfl := h.settings_eq
  obtain ⟨c, w', hleave, hread⟩ := h.read.unsubscribe w
  refine ⟨{ s with read := ⟨c, false, s.read.deserializer⟩ }, w', ?_, h.of_read hread, rfl⟩
  exact (Act.bind_of_eq (Act.get_apply s w)).trans (Act.on_of_eq hleave)

end Honest

section Replay

open Replay (Playback)

variable [Deserializer D]

/-- A replay cannot fail, whatever the deserializer does. -/
theorem succeeds_run (topic : String) (timeout retries : Nat) (halt : HaltScope) :
    Try.Succeeds (fun q : Playback Consumer D Producer => q.consumer.Reads topic)
      (Playback.run timeout retries halt) := by
  intro q w hq
  have hpoll : Try.Succeeds (fun q : Playback Consumer D Producer => q.consumer.Reads topic)
      (Playback.poll timeout) := by
    intro q w hq
    obtain ⟨batch, c, w', hpoll, hc⟩ := Consumer.succeeds_poll topic q.consumer w hq
    have hstep : (LogConsumer.poll timeout : Request Consumer _) q.consumer w = _ := hpoll
    refine ⟨batch, { q with consumer := c }, w', ?_, hc⟩
    rw [Playback.poll, Try.on_apply, hstep]
  rw [Playback.run_apply]
  exact (Try.closed_succeeds _ _).drain hpoll (fun _ _ _ _ h => h) retries halt (q.rounds w) {} q w
    hq

/-- What a consumer answers that has joined no topic. -/
def apart : BrokerError := .invalidState "consumer is not subscribed to any topic"

/-- A replay fails with its first poll if the consumer has joined no topic. -/
theorem run_of_idle {q : Playback Consumer D Producer} (hq : q.consumer.Idle)
    (timeout retries : Nat) (halt : HaltScope) (w : Shared) :
    ∃ result, Playback.run timeout retries halt q w = ((result, q), w) ∧
      (0 < retries → result = .error apart) := by
  rw [Playback.run_apply]
  cases retries with
  | zero =>
    have hfirst : Replay.firstBatch (Playback.poll timeout) 0 q w = ((.ok [], q), w) := rfl
    exact ⟨.ok {}, Replay.drain_succ_of_nil hfirst, fun h => absurd h (Nat.lt_irrefl 0)⟩
  | succ retries =>
    have hstep : (LogConsumer.poll timeout : Request Consumer (List Record)) q.consumer w =
        ((.error apart, q.consumer), w) := by
      change Consumer.poll q.consumer w = _
      rw [Consumer.poll, Try.bind_of_ok (Try.get_apply q.consumer w), hq.opened, hq.apart]
      rfl
    have hpoll : Playback.poll timeout q w = ((.error apart, q), w) := by
      rw [Playback.poll, Try.on_apply, hstep]
    have hfirst : Replay.firstBatch (Playback.poll timeout) (retries + 1) q w = _ :=
      Replay.firstBatch_succ_of_poll hpoll (by simp)
    exact ⟨.error apart, Replay.drain_succ_of_error hfirst, fun _ => rfl⟩

/-- What a restore comes to: it fails if it polls a consumer that has joined no topic. -/
def Restored (settings : Settings) (stale : Bool) (result : Except Error Replay.Summary) : Prop :=
  if stale then 0 < settings.retryCount → result = .error (.broker apart)
  else ∃ sum, result = .ok sum

theorem Honest.run (settings : Settings) (q : Playback Consumer D Producer) (w : Shared)
    (hq : if stale then q.consumer.Idle else q.consumer.Reads settings.topic) :
    ∃ result q' w', Playback.run settings.pollTimeout settings.retryCount settings.halt q w =
        ((result, q'), w') ∧ q'.consumer.closed = false ∧
      Restored settings stale (result.mapError .broker) := by
  cases stale with
  | true =>
    obtain ⟨result, hrun, hfail⟩ := run_of_idle hq settings.pollTimeout settings.retryCount
      settings.halt w
    refine ⟨result, q, w, hrun, hq.opened, fun hretries => ?_⟩
    rw [hfail hretries]
    rfl
  | false =>
    obtain ⟨sum, q', w', hrun, hq'⟩ := succeeds_run settings.topic settings.pollTimeout
      settings.retryCount settings.halt q w hq
    exact ⟨.ok sum, q', w', hrun, hq'.opened, sum, rfl⟩

/-- A checkpointer that is not stopped and lacks nothing replays its topic, and leaves it. -/
theorem Honest.restore (h : Honest settings stale s) (w : Shared) :
    (∃ e w', restore s w = ((.error e, s), w') ∧
      (s.isStopped = true ∨ s.read.consumer = none ∨ s.read.deserializer = none)) ∨
    ∃ result s' w', restore s w = ((result, s'), w') ∧ Restored settings stale result ∧
      Honest settings false s' ∧ s'.isSubscribed = false := by
  cases hd : s.read.deserializer with
  | none => exact .inl ⟨_, w, restore_of_none hd w, .inr (.inr rfl)⟩
  | some d =>
    rcases h.subscribe w with ⟨e, w₁, hjoin, hwhy⟩ | ⟨c, w₁, hjoin, hc⟩
    · exact .inl ⟨e, w₁, restore_of_error hd hjoin, hwhy.imp_right .inl⟩
    · obtain rfl := h.settings_eq
      obtain ⟨result, q, w₂, hrun, hopen, hresult⟩ := Honest.run s.settings
        { consumer := c, deserializer := d, write := some s.write }
        (w₁.withNotices (w₁.notices.push (.loading s.topic))) hc
      obtain ⟨w₃, hleave⟩ := Consumer.unsubscribe_of_opened hopen w₂
      rw [hd] at hjoin
      exact .inr ⟨_, _, _, restore_of_ok hd hjoin rfl hrun hleave, hresult,
        ⟨rfl, .apart _ _ ⟨hopen, rfl⟩⟩, rfl⟩

end Replay

/-! ## All that can be asked -/

namespace Honest

theorem useConsumer (h : Honest settings stale s) {c : Consumer} (hc : c.Idle) :
    let s' := s.setConsumer (some c)
    Honest settings (s'.isSubscribed && (stale || true)) s' := by
  obtain ⟨_, factory, phase, write, read⟩ := s
  obtain ⟨rfl, hread⟩ := h
  refine ⟨rfl, ?_⟩
  rw [Bool.or_true, Bool.and_true]
  cases hread with
  | absent d | apart c' d hc' => exact .apart c d hc
  | joined c' d hc' | replaced c' d hc' => exact .replaced c d hc

theorem setAdapter (h : Honest settings stale s) (a : Adapter D) :
    Honest settings stale (s.withAdapter a) := by
  obtain ⟨_, factory, phase, write, read⟩ := s
  obtain ⟨rfl, hread⟩ := h
  refine ⟨rfl, ?_⟩
  cases hread with
  | absent d => exact .absent a.deserializer
  | apart c d hc => exact .apart c a.deserializer hc
  | joined c d hc => exact .joined c a.deserializer hc
  | replaced c d hc => exact .replaced c a.deserializer hc

theorem createConsumer (h : Honest settings stale s) (w : Shared) :
    Honest settings stale (createConsumer s w).1.2 := by
  obtain ⟨_, ⟨_, failsConsumer, _, _, _⟩, phase, write, read⟩ := s
  obtain ⟨rfl, hread⟩ := h
  cases hread with
  | absent d =>
    cases failsConsumer with
    | true => exact ⟨rfl, .absent d⟩
    | false => exact ⟨rfl, .apart _ d ⟨rfl, rfl⟩⟩
  | apart c d hc => exact ⟨rfl, .apart c d hc⟩
  | joined c d hc => exact ⟨rfl, .joined c d hc⟩
  | replaced c d hc => exact ⟨rfl, .replaced c d hc⟩

theorem createProducer (h : Honest settings stale s) (w : Shared) :
    Honest settings stale (createProducer s w).1.2 := by
  rcases s with ⟨_, ⟨_ | _, _, _, _, _⟩, _, ⟨_, _ | _, _⟩, _⟩ <;> exact h.of_eq rfl rfl

theorem finishInit (h : Honest settings stale s) : Honest settings stale (finishInit s) := by
  rcases s with ⟨_, _, _ | _ | _ | _, _, _⟩ <;> exact h.of_eq rfl rfl

theorem init (h : Honest settings stale s) (w : Shared) :
    Honest settings stale (init s w).1.2 :=
  (Act.closed_keeps (Honest settings stale)).init (fun _ _ h => h)
    (fun _ w h => h.createConsumer w) (fun _ w h => h.createProducer w)
    (fun _ _ h => h.finishInit) s w h

theorem start (h : Honest settings stale s) (w : Shared) :
    Honest settings stale (start s w).1.2 := by
  rcases s with ⟨_, _, _ | _ | _ | _, _, _⟩ <;> exact h.of_eq rfl rfl

theorem publish (h : Honest settings stale s) (p : Position) (w : Shared) :
    Honest settings stale (publish p s w).1.2 := by
  rw [Checkpointer.publish, Try.bind_of_ok (Try.get_apply s w)]
  cases s.isStopped <;> exact h.of_eq rfl rfl

/-- A checkpointer that stops is left without a consumer. -/
theorem stop (h : Honest settings stale s) (w : Shared) :
    Honest settings stale (stop s w).1.2 ∨
      Honest settings false (stop s w).1.2 ∧ (stop s w).1.2.isSubscribed = false := by
  cases hstopped : s.isStopped with
  | true =>
    rw [stop_of_stopped hstopped w]
    exact .inl h
  | false =>
    obtain ⟨w', hstop⟩ := stop_of_not_stopped hstopped w
    rw [hstop]
    exact .inr ⟨⟨h.settings_eq, .absent s.read.deserializer⟩, rfl⟩

end Honest

section Run

variable [Deserializer D]

/-- What the checkpointer knows is stale from when it is given a consumer while it is subscribed. -/
theorem Ask.run_honest (a : Ask D) (h : Honest settings stale s) (w : Shared) :
    let s' := (a.run s w).1.2
    Honest settings (s'.isSubscribed && (stale || a.givesConsumer)) s' := by
  cases a with
  | useProducer producer =>
    have hkept : Honest settings stale (s.setProducer (some producer)) := h.of_eq rfl rfl
    exact hkept.kept
  | useConsumer c hc => exact h.useConsumer hc
  | setAdapter a => exact (h.setAdapter a).kept
  | init => exact (h.init w).kept
  | start => exact (h.start w).kept
  | publish p => exact (h.publish p w).kept
  | subscribe =>
    have hkept : Honest settings stale (Checkpointer.subscribe s w).1.2 := by
      rcases h.subscribe w with ⟨e, w', hrun, -⟩ | ⟨c, w', hrun, hc⟩
      · rw [hrun]
        exact h
      · rw [hrun]
        exact h.of_read (.of_consumer hc _)
    exact hkept.kept
  | unsubscribe =>
    obtain ⟨s', w', hrun, h', hs'⟩ := h.unsubscribe w
    rw [Ask.run, hrun]
    exact h'.left hs' _
  | restore =>
    rcases h.restore w with ⟨e, w', hrun, -⟩ | ⟨result, s', w', hrun, -, h', hs'⟩
    · have hstep : (Ask.restore.run s w).1.2 = s := congrArg (·.1.2) hrun
      rw [hstep]
      exact h.kept
    · have hstep : (Ask.restore.run s w).1.2 = s' := congrArg (·.1.2) hrun
      rw [hstep]
      exact h'.left hs' _
  | stop =>
    rcases h.stop w with h' | ⟨h', hs'⟩
    · exact h'.kept
    · exact h'.left hs' _

theorem forM_run_honest (asks : List (Ask D)) (h : Honest settings stale s) (w : Shared) :
    Honest settings (staleAfter s w stale asks) (asks.forM Ask.run s w).1.2 := by
  induction asks generalizing s w stale with
  | nil => exact h
  | cons a asks ih => exact ih (a.run_honest h w) (a.run s w).2

end Run

/-- Whatever is asked of a checkpointer over a broker in memory, it is subscribed exactly if it
holds a consumer that has joined its topic, until it is given another consumer while it is
subscribed.  Only then is it subscribed with a consumer that has joined no topic, and only as long
as it stays subscribed.  Unless it is stopped or lacks a consumer or a deserializer, a restore comes
to its end before its rounds do, if the deserializer is lawful, and succeeds if the consumer has
joined the topic, or is yet to join it; the other consumer fails it, and after that the checkpointer
knows again. -/
theorem subscribed_iff_joined [Deserializer D] [LawfulDeserializer D] (settings : Settings)
    (factory : Factory) (asks : List (Ask D)) (w : Shared) :
    let created : InMemory D × Shared := create settings factory w
    let s := (asks.forM Ask.run created.1 created.2).1.2
    let w' := (asks.forM Ask.run created.1 created.2).2
    let stale := staleAfter created.1 created.2 false asks
    ((∃ c sub, s.read.consumer = some c ∧ c.subscription = some sub ∧ sub.topic = settings.topic) ↔
      s.isSubscribed = true ∧ stale = false) ∧
    (stale = true → s.isSubscribed = true) ∧
    (s.isStopped = false → s.read.consumer.isSome = true → s.adapter.deserializer.isSome = true →
      s.RestoreEnds w' ∧
      ∃ result s' w'', restore s w' = ((result, s'), w'') ∧ s'.isSubscribed = false ∧
        if stale then 0 < settings.retryCount → result = .error (.broker apart)
        else ∃ sum, result = .ok sum) := by
  intro created s w' stale
  have hcreated : Honest settings false created.1 := ⟨rfl, .absent none⟩
  have hs : Honest settings stale s := forM_run_honest asks hcreated created.2
  refine ⟨hs.read.joined_iff, hs.read.subscribed_of_stale, fun hstopped hconsumer hd => ?_⟩
  refine ⟨s.restoreEnds_of_lawful w', ?_⟩
  rcases hs.restore w' with ⟨e, w'', -, hwhy⟩ | ⟨result, s', w'', hrun, hresult, -, hs'⟩
  · rcases hwhy with hwhy | hwhy | hwhy
    · rw [hwhy] at hstopped
      cases hstopped
    · rw [hwhy] at hconsumer
      cases hconsumer
    · rw [adapter, hwhy] at hd
      cases hd
  · exact ⟨result, s', w'', hrun, hs', hresult⟩

/-- Settings for one topic. -/
def oneTopic : Settings := { (default : Settings) with topic := "t", retryCount := 1 }

/-- A deserializer is all that the checkpointer needs besides its clients. -/
def loading : Adapter Loader := { deserializer := some { cache := 0, counter := 0 } }

/-- It restores what it has subscribed to. -/
theorem subscribed_iff_joined_of_subscribe :
    let created : InMemory Loader × Shared := create oneTopic {} {}
    let x := [Ask.setAdapter loading, .init, .subscribe].forM Ask.run created.1 created.2
    x.1.2.isSubscribed = true ∧ x.1.2.RestoreEnds x.2 ∧
      ∃ sum s' w', restore x.1.2 x.2 = ((.ok sum, s'), w') ∧ s'.isSubscribed = false := by
  obtain ⟨-, -, hrestore⟩ := subscribed_iff_joined oneTopic {}
    [Ask.setAdapter loading, .init, .subscribe] {}
  obtain ⟨hends, result, s', w', hrun, hs', sum, rfl⟩ := hrestore rfl rfl rfl
  exact ⟨rfl, hends, sum, s', w', hrun, hs'⟩

/-- A checkpointer that is given another consumer while it is subscribed takes it to have joined the
topic as well.  It does not subscribe again, and cannot restore. -/
theorem subscribed_of_another :
    let created : InMemory Loader × Shared := create oneTopic {} {}
    let x := [Ask.setAdapter loading, .init, .subscribe, .useConsumer {} ⟨rfl, rfl⟩,
      .subscribe].forM Ask.run created.1 created.2
    x.1.2.isSubscribed = true ∧ x.1.2.isStopped = false ∧ x.1.2.read.consumer = some {} ∧
      x.1.2.adapter.deserializer.isSome = true ∧ (restore x.1.2 x.2).1.1 = .error (.broker apart) :=
  ⟨rfl, rfl, rfl, rfl, rfl⟩

end Subscribed

end PositionLog
