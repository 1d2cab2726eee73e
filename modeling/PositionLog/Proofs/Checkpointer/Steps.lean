import PositionLog.Checkpointer.Lifecycle
import PositionLog.Checkpointer.Restore
import PositionLog.Proofs.Shared

/-!
# What the operations of a checkpointer come to

An operation asks the clients for something, and what it comes to is known as soon as their answer
is.  There is one equation for each operation, whatever the clients are.
-/

namespace PositionLog

variable {F P C D : Type} {w w' : Shared}

/-- What is shared once it was told what went wrong, if anything did. -/
def Shared.complained (w : Shared) (complaint : BrokerError → Notice) :
    Except BrokerError Unit → Shared
  | .ok () => w
  | .error cause => w.withNotices (w.notices.push (complaint cause))

namespace Writer

/-- What a writer returns when a producer has answered. -/
def returned : Except BrokerError Receipt → Except BrokerError Unit
  | .error .closed => .error .closed
  | _ => .ok ()

/-- What is shared then.  A report that is there at once is settled, and a record that is refused,
unless by a closed producer, is lost. -/
def answered (x : Writer) (key : Bytes) (w : Shared) : Except BrokerError Receipt → Shared
  | .ok (.settled report) => (Shared.settle (.writer x.losses key) report w).2
  | .ok .outstanding | .error .closed => w
  | .error cause =>
    (Shared.lose x.losses ⟨key, none, cause⟩ (Shared.tell (.sendRefused x.topic cause) w).2).2

/-- A writer asks its producer once. -/
theorem append_of_answer [LogProducer P] {x : Writer} {key value : Bytes} {producer producer' : P}
    {answer : Except BrokerError Receipt}
    (h : (LogProducer.send x.topic key value (.writer x.losses key) : Request P Receipt)
      producer w = ((answer, producer'), w')) :
    (x.append key value : Request P Unit) producer w =
      ((returned answer, producer'), x.answered key w' answer) := by
  rw [append]
  match answer with
  | .ok .outstanding =>
    have htransmit : (LogProducer.transmit x.topic key value (.writer x.losses key) :
        Request P Unit) producer w = ((.ok (), producer'), w') := Try.bind_of_ok h
    exact (Try.bind_of_ok (Try.outcome_of_eq htransmit)).trans rfl
  | .ok (.settled report) =>
    have htransmit : (LogProducer.transmit x.topic key value (.writer x.losses key) :
        Request P Unit) producer w =
          ((.ok (), producer'), (Shared.settle (.writer x.losses key) report w').2) :=
      Try.bind_of_ok h
    exact (Try.bind_of_ok (Try.outcome_of_eq htransmit)).trans rfl
  | .error cause =>
    have htransmit : (LogProducer.transmit x.topic key value (.writer x.losses key) :
        Request P Unit) producer w = ((.error cause, producer'), w') := by
      rw [LogProducer.transmit, Try.bind_apply, h]
    rw [Try.bind_of_ok (Try.outcome_of_eq htransmit)]
    cases cause <;> rfl

end Writer

/-- A position is sent and mirrored, whatever becomes of what was sent. -/
theorem WritePath.publish_of_answer [LogProducer P] {s : WritePath P} {producer producer' : P}
    {p : Position} {result : Except BrokerError Unit} (hs : s.producer = some producer)
    (h : (s.writer.append p.key p.value producer : StateM Shared _)
      (w.withNotices (w.notices.push (.updating s.writer.topic p.key.length p.value.length))) =
        ((result, producer'), w')) :
    publish p s w =
      ((result.mapError .broker, { s with producer := some producer' }), (s.mirror p w').2) := by
  rw [publish, Try.bind_of_ok (Try.get_apply s w), hs]
  apply (Try.bind_of_ok (Try.lift_of_eq (Shared.tell_eq _ w))).trans
  apply (Try.bind_of_ok (Try.lift_of_eq h)).trans
  apply (Try.bind_of_ok (Try.set_apply _ _ _)).trans
  apply (Try.bind_of_ok (Try.lift_apply _ _ _)).trans
  cases result <;> rfl

namespace ReadPath

variable [LogConsumer C] {c c' : C} {d : Option D} {topic : String} {depth : Nat}
  {result : Except BrokerError Unit}

/-- The topic is joined if the consumer could. -/
theorem subscribe_of_answer
    (h : (LogConsumer.subscribe topic (if 1 ≤ depth then some (.rewind ⟨depth⟩) else none) c :
      StateM Shared _) (w.withNotices (w.notices.push (.subscribing topic depth))) =
        ((result, c'), w')) :
    subscribe topic depth ⟨some c, false, d⟩ w =
      ((result.mapError .broker, ⟨some c', result.isOk, d⟩), w') := by
  rw [subscribe, Try.bind_of_ok (Try.get_apply _ w)]
  apply (Try.bind_of_ok (Try.lift_of_eq (Shared.tell_eq _ w))).trans
  apply (Try.bind_of_ok (Try.lift_of_eq h)).trans
  cases result <;> rfl

/-- What is told if a topic cannot be left. -/
def complaint (topic : String) : BrokerError → Notice
  | .closed => .unsubscribeSkipped topic
  | cause => .unsubscribeFailed topic cause

/-- The topic is left, also if the consumer could not. -/
theorem unsubscribe_of_answer (topic : String) (subscribed : Bool) (d : Option D)
    (h : (LogConsumer.unsubscribe c : StateM Shared _) w = ((result, c'), w')) :
    unsubscribe topic ⟨some c, subscribed, d⟩ w =
      (((), ⟨some c', false, d⟩), w'.complained (complaint topic) result) := by
  rw [unsubscribe, Act.bind_of_eq (Act.get_apply _ w)]
  apply (Act.bind_of_eq (Act.lift_of_eq h)).trans
  apply (Act.bind_of_eq (Act.set_apply _ _ _)).trans
  match result with
  | .ok () => rfl
  | .error .closed | .error (.unavailable _) | .error (.invalidState _) | .error (.kafka _) => rfl

end ReadPath

/-- What is shared once it was told what a replay of a topic came to, if it did not fail. -/
def Shared.concluded {ε : Type} (w : Shared) (topic : String) : Except ε Replay.Summary → Shared
  | .ok sum => w.withNotices (w.notices.push (.loaded topic sum.batches sum.records))
  | .error _ => w

namespace Checkpointer

variable {s : Checkpointer F P C D}

theorem replayDepth_eq (s : Checkpointer F P C D) (w : Shared) :
    s.replayDepth w = ((s.replayDepth w).1, w) := by
  rw [replayDepth]
  cases s.write.cache <;> rfl

theorem onRead_of_eq {α : Type} {x : Operation (ReadPath C D) α} {a : Except Error α}
    {r : ReadPath C D} (h : x s.read w = ((a, r), w')) :
    onRead x s w = ((a, { s with read := r }), w') := by
  rw [onRead, Try.on_apply, h]

section Subscribe

variable [LogConsumer C] {c c' : C} {d : Option D} {result : Except BrokerError Unit}

/-- The consumer joins the topic, unless that was done. -/
def joining (s : Checkpointer F P C D) (c : C) (w : Shared) :
    (Except BrokerError Unit × C) × Shared :=
  if s.isSubscribed then ((.ok (), c), w)
  else
    let depth := (s.replayDepth w).1
    (LogConsumer.subscribe s.topic (if 1 ≤ depth then some (.rewind ⟨depth⟩) else none) c :
      StateM Shared _) (w.withNotices (w.notices.push (.subscribing s.topic depth)))

theorem subscribe_of_stopped (h : s.isStopped = true) (w : Shared) :
    subscribe s w = ((.error .stopped, s), w) := by
  rw [subscribe, Try.bind_of_ok (Try.get_apply s w), h]
  rfl

theorem subscribe_of_none (h : s.isStopped = false) (hs : s.isSubscribed = false)
    (hc : s.read.consumer = none) (w : Shared) :
    subscribe s w = ((.error .notInitialized, s), w) := by
  obtain ⟨settings, factory, phase, write, consumer, subscribed, d⟩ := s
  obtain rfl : subscribed = false := hs
  obtain rfl : consumer = none := hc
  rw [subscribe, Try.bind_of_ok (Try.get_apply _ w), h, if_neg Bool.false_ne_true]
  exact (Try.bind_of_ok (Try.lift_of_eq (replayDepth_eq _ w))).trans rfl

/-- A checkpointer subscribes if its consumer can join the topic. -/
theorem subscribe_of_joining (h : s.isStopped = false) (hc : s.read.consumer = some c)
    (hjoin : s.joining c w = ((result, c'), w')) :
    subscribe s w = ((result.mapError .broker, { s with
      read := ⟨some c', result.isOk, s.read.deserializer⟩ }), w') := by
  obtain ⟨settings, factory, phase, write, consumer, subscribed, d⟩ := s
  obtain rfl : consumer = some c := hc
  rw [subscribe, Try.bind_of_ok (Try.get_apply _ w), h, if_neg Bool.false_ne_true]
  apply (Try.bind_of_ok (Try.lift_of_eq (replayDepth_eq _ w))).trans
  cases subscribed with
  | true =>
    cases hjoin
    rfl
  | false => exact onRead_of_eq (ReadPath.subscribe_of_answer hjoin)

/-- It leaves the topic, whatever the consumer answers. -/
theorem unsubscribe_of_answer {subscribed : Bool} (hread : s.read = ⟨some c, subscribed, d⟩)
    (h : (LogConsumer.unsubscribe c : StateM Shared _) w = ((result, c'), w')) :
    unsubscribe s w = (((), { s with read := ⟨some c', false, d⟩ }),
      w'.complained (ReadPath.complaint s.topic) result) := by
  rw [unsubscribe, Act.bind_of_eq (Act.get_apply s w), Act.on_apply, hread,
    ReadPath.unsubscribe_of_answer s.topic subscribed d h]

end Subscribe

section Replay

variable [LogProducer P] [LogConsumer C] [Deserializer D] {c : C} {d : D} {subscribed : Bool}
  {result : Except BrokerError Replay.Summary} {q : Replay.Playback C D P}

/-- A replay leaves behind the consumer, the deserializer and the write path that it ended with. -/
theorem replay_of_answer (hread : s.read = ⟨some c, subscribed, some d⟩)
    (h : Replay.Playback.run s.settings.pollTimeout s.settings.retryCount s.settings.halt
      { consumer := c, deserializer := d, write := some s.write } w = ((result, q), w')) :
    replay s w = ((result.mapError .broker, { s with
      write := q.write.getD s.write
      read := ⟨some q.consumer, subscribed, some q.deserializer⟩ }), w') := by
  rw [replay, Try.bind_of_ok (Try.get_apply s w), hread]
  apply (Try.bind_of_ok (Try.lift_of_eq h)).trans
  apply (Try.bind_of_ok (Try.set_apply _ _ _)).trans
  cases result <;> rfl

/-- It fails at once if there is nothing to read with. -/
theorem replay_cases (s : Checkpointer F P C D) (w : Shared) :
    (∃ e, replay s w = ((.error e, s), w)) ∨
    ∃ c subscribed d result q w', s.read = ⟨some c, subscribed, some d⟩ ∧
      Replay.Playback.run s.settings.pollTimeout s.settings.retryCount s.settings.halt
        { consumer := c, deserializer := d, write := some s.write } w = ((result, q), w') ∧
      replay s w = ((result.mapError .broker, { s with
        write := q.write.getD s.write
        read := ⟨some q.consumer, subscribed, some q.deserializer⟩ }), w') := by
  rcases hread : s.read with ⟨_ | c, subscribed, _ | d⟩
  case some.some =>
    rcases hrun : Replay.Playback.run s.settings.pollTimeout s.settings.retryCount s.settings.halt
      { consumer := c, deserializer := d, write := some s.write } w with ⟨⟨result, q⟩, w'⟩
    exact .inr ⟨c, subscribed, d, result, q, w', rfl, hrun, replay_of_answer hread hrun⟩
  all_goals
    rw [replay, Try.bind_of_ok (Try.get_apply s w), hread]
    exact .inl ⟨_, rfl⟩

/-! Restoring ends at once, or with subscribing, or after the topic was left. -/

theorem restore_of_none (h : s.read.deserializer = none) (w : Shared) :
    restore s w = ((.error .notDeserializable, s), w) := by
  rw [restore, Try.bind_of_ok (Try.get_apply s w), h]
  rfl

theorem restore_of_error (hd : s.read.deserializer = some d) {s' : Checkpointer F P C D} {e : Error}
    (h : subscribe s w = ((.error e, s'), w')) : restore s w = ((.error e, s'), w') := by
  rw [restore, Try.bind_of_ok (Try.get_apply s w), hd, Option.isNone_some,
    if_neg Bool.false_ne_true]
  dsimp only
  rw [Try.bind_apply, h]

/-- What comes of it is what the replay came to. -/
theorem restore_of_steps (hd : s.read.deserializer = some d) {s₁ s₂ s₃ : Checkpointer F P C D}
    {w₁ w₂ w₃ : Shared} {result : Except Error Replay.Summary}
    (h : subscribe s w = ((.ok (), s₁), w₁))
    (hrun : replay s₁ (w₁.withNotices (w₁.notices.push (.loading s.topic))) = ((result, s₂), w₂))
    (hleave : unsubscribe s₂ w₂ = (((), s₃), w₃)) :
    restore s w = ((result, s₃), w₃.concluded s.topic result) := by
  rw [restore, Try.bind_of_ok (Try.get_apply s w), hd, Option.isNone_some,
    if_neg Bool.false_ne_true]
  dsimp only
  apply (Try.bind_of_ok h).trans
  apply (Try.bind_of_ok (Try.lift_of_eq (Shared.tell_eq _ w₁))).trans
  apply (Try.bind_of_ok (Try.outcome_of_eq hrun)).trans
  apply (Try.bind_of_ok (Try.liftAct_of_eq hleave)).trans
  cases result <;> rfl

/-- Whatever the consumer answers when it leaves, the topic is left. -/
theorem restore_of_ok {s₁ : Checkpointer F P C D} {w₁ w₂ w₃ : Shared} {c' : C}
    {answer : Except BrokerError Unit} (hd : s.read.deserializer = some d)
    (h : subscribe s w = ((.ok (), s₁), w₁)) (hread : s₁.read = ⟨some c, subscribed, some d⟩)
    (hrun : Replay.Playback.run s₁.settings.pollTimeout s₁.settings.retryCount s₁.settings.halt
      { consumer := c, deserializer := d, write := some s₁.write }
      (w₁.withNotices (w₁.notices.push (.loading s.topic))) = ((result, q), w₂))
    (hleave : (LogConsumer.unsubscribe q.consumer : StateM Shared _) w₂ = ((answer, c'), w₃)) :
    restore s w = ((result.mapError .broker, { s₁ with
        write := q.write.getD s₁.write
        read := ⟨some c', false, some q.deserializer⟩ }),
      (w₃.complained (ReadPath.complaint s₁.topic) answer).concluded s.topic result) := by
  rw [restore_of_steps hd h (replay_of_answer hread hrun) (unsubscribe_of_answer rfl hleave)]
  cases result <;> rfl

end Replay

section Init

variable [ClientFactory F P C] {factory : F}

theorem createConsumer_of_some {consumer : C} (h : s.read.consumer = some consumer) (w : Shared) :
    createConsumer s w = ((none, s), w) := by
  rw [createConsumer, Act.bind_of_eq (Act.get_apply s w), h]
  rfl

theorem createConsumer_of_ok {consumer : C} (hs : s.read.consumer = none)
    (h : (ClientFactory.createConsumer s.settings.consumer s.factory : StateM Shared (_ × F)) w =
      ((.ok consumer, factory), w')) :
    createConsumer s w = ((none, { s.setConsumer (some consumer) with factory }), w') := by
  rw [createConsumer, Act.bind_of_eq (Act.get_apply s w), hs]
  exact Act.bind_of_eq (Act.lift_of_eq h)

theorem createConsumer_of_error {cause : BrokerError} (hs : s.read.consumer = none)
    (h : (ClientFactory.createConsumer s.settings.consumer s.factory :
      StateM Shared (Except BrokerError C × F)) w = ((.error cause, factory), w')) :
    createConsumer s w = ((some (.creation .consumer cause), { s with factory }),
      w'.withNotices (w'.notices.push (.creationFailed .consumer cause))) := by
  rw [createConsumer, Act.bind_of_eq (Act.get_apply s w), hs]
  exact Act.bind_of_eq (Act.lift_of_eq h)

theorem createProducer_of_some {producer : P} (h : s.write.producer = some producer) (w : Shared) :
    createProducer s w = ((none, s), w) := by
  rw [createProducer, Act.bind_of_eq (Act.get_apply s w), h]
  rfl

theorem createProducer_of_ok {producer : P} (hs : s.write.producer = none)
    (h : (ClientFactory.createProducer s.settings.producer s.factory : StateM Shared (_ × F)) w =
      ((.ok producer, factory), w')) :
    createProducer s w = ((none, { s.setProducer (some producer) with factory }), w') := by
  rw [createProducer, Act.bind_of_eq (Act.get_apply s w), hs]
  exact Act.bind_of_eq (Act.lift_of_eq h)

theorem createProducer_of_error {cause : BrokerError} (hs : s.write.producer = none)
    (h : (ClientFactory.createProducer s.settings.producer s.factory :
      StateM Shared (Except BrokerError P × F)) w = ((.error cause, factory), w')) :
    createProducer s w = ((some (.creation .producer cause), { s with factory }),
      w'.withNotices (w'.notices.push (.creationFailed .producer cause))) := by
  rw [createProducer, Act.bind_of_eq (Act.get_apply s w), hs]
  exact Act.bind_of_eq (Act.lift_of_eq h)

theorem init_of_stopped (h : s.isStopped = true) (w : Shared) :
    init s w = ((.error .stopped, s), w) := by
  rw [init, Try.bind_of_ok (Try.get_apply s w), h]
  rfl

/-- Both clients are tried, and of two that cannot be created the first is complained about. -/
theorem init_of_answers {s₁ s₂ : Checkpointer F P C D} {w₁ w₂ : Shared}
    {first second : Option Error} (h : s.isStopped = false)
    (hfirst : createConsumer s (w.withNotices (w.notices.push (.initializing s.topic))) =
      ((first, s₁), w₁))
    (hsecond : createProducer s₁ w₁ = ((second, s₂), w₂)) :
    init s w = match first.or second with
      | some e => ((.error e, s₂), w₂)
      | none => ((.ok (), finishInit s₂), w₂) := by
  rw [init, Try.bind_of_ok (Try.get_apply s w), h, if_neg Bool.false_ne_true]
  apply (Try.bind_of_ok (Try.lift_of_eq (Shared.tell_eq _ w))).trans
  apply (Try.bind_of_ok (Try.liftAct_of_eq hfirst)).trans
  apply (Try.bind_of_ok (Try.liftAct_of_eq hsecond)).trans
  cases first.or second <;> rfl

end Init

section Stop

variable {result : Except BrokerError Unit}

/-- The consumer is dropped, also if it cannot be closed. -/
theorem closeConsumer_of_answer [LogConsumer C] {consumer consumer' : C}
    (hs : s.read.consumer = some consumer)
    (h : (LogConsumer.close consumer : StateM Shared _)
      (w.withNotices (w.notices.push (.closing .consumer))) = ((result, consumer'), w')) :
    closeConsumer s w =
      (((), s.setConsumer none), w'.complained (.closeFailed .consumer) result) := by
  rw [closeConsumer, Act.bind_of_eq (Act.get_apply s w), hs]
  apply (Act.bind_of_eq (Act.lift_of_eq (Shared.tell_eq _ w))).trans
  apply (Act.bind_of_eq (Act.lift_of_eq h)).trans
  cases result <;> rfl

/-- So is the producer. -/
theorem closeProducer_of_answer [LogProducer P] {producer producer' : P}
    (hs : s.write.producer = some producer)
    (h : (LogProducer.close producer : StateM Shared _)
      (w.withNotices (w.notices.push (.closing .producer))) = ((result, producer'), w')) :
    closeProducer s w = (((), s.setProducer none),
      (LogProducer.drop producer' (w'.complained (.closeFailed .producer) result)).2) := by
  rw [closeProducer, Act.bind_of_eq (Act.get_apply s w), hs]
  apply (Act.bind_of_eq (Act.lift_of_eq (Shared.tell_eq _ w))).trans
  apply (Act.bind_of_eq (Act.lift_of_eq h)).trans
  cases result <;> rfl

theorem closeConsumer_of_none [LogConsumer C] (hs : s.read.consumer = none) (w : Shared) :
    closeConsumer s w = (((), s.setConsumer none), w) := by
  have hsame : s.setConsumer none = s := by rw [setConsumer, ← hs]
  rw [closeConsumer, Act.bind_of_eq (Act.get_apply s w), hs, hsame]
  rfl

theorem closeProducer_of_none [LogProducer P] (hs : s.write.producer = none) (w : Shared) :
    closeProducer s w = (((), s.setProducer none), w) := by
  have hsame : s.setProducer none = s := by rw [setProducer, ← hs]
  rw [closeProducer, Act.bind_of_eq (Act.get_apply s w), hs, hsame]
  rfl

/-- Whatever it answers, the producer is given up. -/
theorem closeProducer_eq [LogProducer P] (s : Checkpointer F P C D) (w : Shared) :
    ∃ w', closeProducer s w = (((), s.setProducer none), w') := by
  cases hs : s.write.producer with
  | none => exact ⟨w, closeProducer_of_none hs w⟩
  | some producer =>
    rcases hclose : (LogProducer.close producer : StateM Shared _)
      (w.withNotices (w.notices.push (.closing .producer))) with ⟨⟨result, producer'⟩, w'⟩
    exact ⟨_, closeProducer_of_answer hs hclose⟩

theorem closeConsumer_eq [LogConsumer C] (s : Checkpointer F P C D) (w : Shared) :
    ∃ w', closeConsumer s w = (((), s.setConsumer none), w') := by
  cases hs : s.read.consumer with
  | none => exact ⟨w, closeConsumer_of_none hs w⟩
  | some consumer =>
    rcases hclose : (LogConsumer.close consumer : StateM Shared _)
      (w.withNotices (w.notices.push (.closing .consumer))) with ⟨⟨result, consumer'⟩, w'⟩
    exact ⟨_, closeConsumer_of_answer hs hclose⟩

/-- A checkpointer that has stopped: it holds no clients, and is not subscribed. -/
def ended (s : Checkpointer F P C D) : Checkpointer F P C D :=
  { s with
    phase := .stopped
    write := { s.write with producer := none }
    read := { s.read with consumer := none, subscribed := false } }

variable [LogProducer P] [LogConsumer C]

theorem stop_of_stopped (h : s.isStopped = true) (w : Shared) : stop s w = (((), s), w) := by
  rw [stop, Act.bind_of_eq (Act.get_apply s w), h]
  rfl

/-- That is what becomes of any other checkpointer that stops, whatever its clients answer. -/
theorem stop_of_not_stopped (h : s.isStopped = false)
    (w : Shared) : ∃ w', stop s w = (((), s.ended), w') := by
  obtain ⟨w₁, hproducer⟩ := closeProducer_eq { s with phase := .stopped } w
  obtain ⟨w₂, hconsumer⟩ := closeConsumer_eq
    (({ s with phase := .stopped } : Checkpointer F P C D).setProducer none) w₁
  refine ⟨w₂, ?_⟩
  rw [stop, Act.bind_of_eq (Act.get_apply s w), h, if_neg Bool.false_ne_true]
  dsimp only
  rw [Act.bind_of_eq (Act.modify_apply _ s w), Act.bind_of_eq hproducer, Act.bind_of_eq hconsumer]
  rfl

end Stop

end Checkpointer

end PositionLog
