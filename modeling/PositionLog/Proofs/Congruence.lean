import PositionLog.Checkpointer.Lifecycle
import PositionLog.Checkpointer.Restore
import PositionLog.Proofs.Shared

/-!
# Steps built alike

A relation between steps that holds of steps built alike out of related ones holds of two replays,
if it holds of the polls and of what takes the records.  What every step of one kind keeps is such a
relation as well, of which one side does not count.
-/

namespace PositionLog

variable {S T α β ε : Type}

/-- The relation holds of steps that do nothing, that tell the same as long as this is no alarm, and
of related steps one after the other. -/
structure Act.Congruence (Φ : {α : Type} → Act S α → Act T α → Prop) : Prop where
  pure : ∀ {α : Type} (a : α), Φ (pure a) (pure a)
  bind : ∀ {α β : Type} {x : Act S α} {y : Act T α} {g : α → Act S β} {h : α → Act T β},
    Φ x y → (∀ a, Φ (g a) (h a)) → Φ (x >>= g) (y >>= h)
  tell : ∀ {n : Notice}, n.isAlarm = false → Φ (liftM (Shared.tell n)) (liftM (Shared.tell n))

/-- The same for steps that can fail.  Among them are those that cannot. -/
structure Try.Congruence (ε : Type) (Φ : {α : Type} → Act S α → Act T α → Prop)
    (Ψ : {α : Type} → Try ε S α → Try ε T α → Prop) : Prop extends Act.Congruence Φ where
  try_pure : ∀ {α : Type} (a : α), Ψ (Pure.pure a) (Pure.pure a)
  try_bind : ∀ {α β : Type} {x : Try ε S α} {y : Try ε T α} {g : α → Try ε S β}
    {h : α → Try ε T β}, Ψ x y → (∀ a, Ψ (g a) (h a)) → Ψ (x >>= g) (y >>= h)
  try_lift : ∀ {α : Type} {x : Act S α} {y : Act T α}, Φ x y → Ψ (liftM x) (liftM y)

variable {Φ : {α : Type} → Act S α → Act T α → Prop}

theorem Act.Congruence.forM (hΦ : Congruence Φ) {f : β → Act S Unit} {g : β → Act T Unit}
    (h : ∀ b, Φ (f b) (g b)) (bs : List β) : Φ (bs.forM f) (bs.forM g) := by
  induction bs with
  | nil => exact hΦ.pure ()
  | cons b bs ih => exact hΦ.bind (h b) fun _ => ih

/-- A step that can fail is one that ends with what it comes to. -/
theorem Act.Congruence.run (hΦ : Congruence Φ) (ε : Type) :
    Try.Congruence ε Φ fun x y => Φ x.run y.run where
  toCongruence := hΦ
  try_pure a := hΦ.pure (Except.ok a)
  try_bind hx hg := by
    rw [ExceptT.run_bind, ExceptT.run_bind]
    refine hΦ.bind hx fun result => ?_
    cases result with
    | ok a => exact hg a
    | error e => exact hΦ.pure (Except.error e)
  try_lift h := hΦ.bind h fun a => hΦ.pure (Except.ok a)

namespace Try.Congruence

open Replay

variable {Ψ : {α : Type} → Request S α → Request T α → Prop}
  (h : Congruence BrokerError Φ Ψ) {poll : Request S (List Record)}
  {poll' : Request T (List Record)} {take : Bytes → Bytes → Act S Bool}
  {take' : Bytes → Bytes → Act T Bool}

include h

theorem firstBatch (hpoll : Ψ poll poll') (retries : Nat) :
    Ψ (firstBatch poll retries) (firstBatch poll' retries) := by
  induction retries with
  | zero => exact h.try_pure []
  | succ retries ih =>
    refine h.try_bind hpoll fun batch => ?_
    cases batch with
    | nil => exact ih
    | cons r batch => exact h.try_pure (r :: batch)

theorem feed (htake : ∀ key value, Φ (take key value) (take' key value)) (batch : List Record)
    (records : Nat) : Φ (feed take records batch) (feed take' records batch) := by
  induction batch generalizing records with
  | nil => exact h.pure (records, false)
  | cons r batch ih =>
    refine h.bind (h.tell rfl) fun _ => h.bind (htake r.key r.value) fun more => ?_
    cases more with
    | false => exact h.pure (records + 1, true)
    | true => exact ih (records + 1)

theorem drain (hpoll : Ψ poll poll')
    (htake : ∀ key value, Φ (take key value) (take' key value)) (retries : Nat) (halt : HaltScope)
    (rounds : Nat) (sum : Summary) :
    Ψ (drain poll take retries halt rounds sum) (drain poll' take' retries halt rounds sum) := by
  induction rounds generalizing sum with
  | zero => exact h.try_pure sum
  | succ rounds ih =>
    refine h.try_bind (h.firstBatch hpoll retries) fun batch => ?_
    cases batch with
    | nil => exact h.try_pure sum
    | cons r batch =>
      refine h.try_bind (h.try_lift (h.tell rfl)) fun _ => ?_
      refine h.try_bind (h.try_lift (h.feed htake (r :: batch) sum.records)) ?_
      rintro ⟨records, halted⟩
      dsimp only
      cases halted && halt = .replay with
      | false => exact ih _
      | true => exact h.try_bind (h.try_lift (h.tell rfl)) fun _ => h.try_pure _

end Try.Congruence

/-- What holds of steps that do nothing, of steps that tell something, and of one step after
another if it holds of both. -/
structure Act.Closed (Φ : {α : Type} → Act S α → Prop) : Prop where
  pure : ∀ {α : Type} (a : α), Φ (pure a)
  bind : ∀ {α β : Type} {x : Act S α} {g : α → Act S β},
    Φ x → (∀ a, Φ (g a)) → Φ (x >>= g)
  tell : ∀ n, Φ (liftM (Shared.tell n))

/-- The same for steps that can fail. -/
structure Try.Closed (ε : Type) (Φ : {α : Type} → Act S α → Prop)
    (Ψ : {α : Type} → Try ε S α → Prop) : Prop extends Act.Closed Φ where
  try_pure : ∀ {α : Type} (a : α), Ψ (Pure.pure a)
  try_bind : ∀ {α β : Type} {x : Try ε S α} {g : α → Try ε S β},
    Ψ x → (∀ a, Ψ (g a)) → Ψ (x >>= g)
  try_lift : ∀ {α : Type} {x : Act S α}, Φ x → Ψ (liftM x)

section Closed

variable {Φ : {α : Type} → Act S α → Prop}

namespace Act.Closed

variable (hΦ : Closed Φ)

include hΦ

theorem congruence : Congruence fun {α : Type} (x _ : Act S α) => Φ x :=
  ⟨hΦ.pure, hΦ.bind, fun _ => hΦ.tell _⟩

theorem forM {f : β → Act S Unit} (h : ∀ b, Φ (f b)) (bs : List β) : Φ (bs.forM f) :=
  hΦ.congruence.forM (g := f) h bs

theorem run (ε : Type) : Try.Closed ε Φ fun x => Φ x.run where
  toClosed := hΦ
  try_pure := (hΦ.congruence.run ε).try_pure
  try_bind {_ _ x g} hx hg := (hΦ.congruence.run ε).try_bind (y := x) (h := g) hx hg
  try_lift {_ x} h := (hΦ.congruence.run ε).try_lift (y := x) h

theorem try_pure (a : α) : Φ (Pure.pure a : Try ε S α).run := (hΦ.run ε).try_pure a

theorem try_throw (e : ε) : Φ (throw e : Try ε S α).run := hΦ.pure (Except.error e)

theorem try_lift {x : Act S α} (h : Φ x) : Φ (liftM x : Try ε S α).run := (hΦ.run ε).try_lift h

theorem try_bind {x : Try ε S α} {g : α → Try ε S β} (hx : Φ x.run) (hg : ∀ a, Φ (g a).run) :
    Φ (x >>= g).run :=
  (hΦ.run ε).try_bind hx hg

/-- What holds of how a cursor reads and sets positions, holds of a rewind. -/
theorem move {c : Cursor S} (hend : ∀ p, Φ (c.endOffset p))
    (hseek : ∀ p offset, Φ (c.seek p offset)) (r : Rewind) (p : TopicPartition) :
    Φ (r.move c p) := by
  refine hΦ.bind (hend p) fun answer => ?_
  cases answer with
  | error cause => exact hΦ.tell _
  | ok end_ =>
    dsimp only
    cases r.target end_ with
    | none => exact hΦ.tell _
    | some start =>
      refine hΦ.bind (hΦ.tell _) fun _ => hΦ.bind (hseek p start) fun answer => ?_
      cases answer with
      | error cause => exact hΦ.tell _
      | ok _ => exact hΦ.pure ()

theorem assigned {c : Cursor S} (hend : ∀ p, Φ (c.endOffset p))
    (hseek : ∀ p offset, Φ (c.seek p offset)) (hcommand : ∀ q : CursorCommand, Φ (q.run c))
    (hheard : ∀ ps, Φ (liftM (Shared.observe (.assigned ps)))) (l : Listener)
    (ps : List TopicPartition) : Φ (l.assigned c ps) := by
  cases l with
  | rewind r => exact hΦ.forM (hΦ.move hend hseek r) ps
  | probe commands => exact hΦ.bind (hheard ps) fun _ => hΦ.forM hcommand commands

end Act.Closed

/-- A step that keeps `I`. -/
def Act.Keeps (I : S → Prop) (x : Act S α) : Prop := ∀ s w, I s → I (x s w).1.2

theorem Act.closed_keeps (I : S → Prop) : Closed fun {α : Type} (x : Act S α) => Keeps I x where
  pure _ _ _ h := h
  bind hx hg s w h := hg _ _ _ (hx s w h)
  tell _ _ _ h := h

/-- What holds of polls and of what takes the records, holds of a replay. -/
theorem Try.Closed.drain {Ψ : {α : Type} → Request S α → Prop} (h : Closed BrokerError Φ Ψ)
    {poll : Request S (List Record)} {take : Bytes → Bytes → Act S Bool} (hpoll : Ψ poll)
    (htake : ∀ key value, Φ (take key value)) (retries : Nat) (halt : HaltScope) (rounds : Nat)
    (sum : Replay.Summary) : Ψ (Replay.drain poll take retries halt rounds sum) := by
  have hcongruence : Congruence BrokerError (fun {α : Type} (x _ : Act S α) => Φ x)
      fun {α : Type} (x _ : Request S α) => Ψ x :=
    ⟨h.toClosed.congruence, h.try_pure, h.try_bind, h.try_lift⟩
  exact @Congruence.drain S S _ _ hcongruence poll poll take take hpoll htake retries halt rounds
    sum

end Closed

section Checkpointer

variable {F P C D : Type} {Φ : {α : Type} → Act (Checkpointer F P C D) α → Prop}
  (hΦ : Act.Closed Φ) (hget : Φ (get : Act (Checkpointer F P C D) _))

include hΦ hget

/-- What holds of creating either client, and of remembering it, holds of initializing. -/
theorem Act.Closed.init [ClientFactory F P C]
    (hconsumer : Φ (Checkpointer.createConsumer : Act (Checkpointer F P C D) _))
    (hproducer : Φ (Checkpointer.createProducer : Act (Checkpointer F P C D) _))
    (hfinish : Φ (modify Checkpointer.finishInit : Act (Checkpointer F P C D) Unit)) :
    Φ (Checkpointer.init : Operation (Checkpointer F P C D) Unit).run := by
  refine hΦ.try_bind (hΦ.try_lift hget) fun s => ?_
  cases s.isStopped with
  | true => exact hΦ.try_throw _
  | false =>
    refine hΦ.try_bind (hΦ.try_lift (hΦ.tell _)) fun _ => ?_
    refine hΦ.try_bind (hΦ.try_lift hconsumer) fun first => ?_
    refine hΦ.try_bind (hΦ.try_lift hproducer) fun second => ?_
    cases first.or second with
    | some e => exact hΦ.try_throw e
    | none => exact hΦ.try_lift hfinish

variable [LogConsumer C]

/-- What holds of joining the topic, to be read back to any depth, holds of subscribing. -/
theorem Act.Closed.subscribe (hdepth : ∀ s : Checkpointer F P C D, Φ (liftM s.replayDepth))
    (hjoin : ∀ topic depth, Φ (Checkpointer.onRead (ReadPath.subscribe topic depth)).run) :
    Φ (Checkpointer.subscribe : Operation (Checkpointer F P C D) Unit).run := by
  refine hΦ.try_bind (hΦ.try_lift hget) fun s => ?_
  cases s.isStopped with
  | true => exact hΦ.try_throw _
  | false => exact hΦ.try_bind (hΦ.try_lift (hdepth s)) fun depth => hjoin s.topic depth

/-- What holds of each of the three parts of restoring, holds of restoring. -/
theorem Act.Closed.restore [LogProducer P] [Deserializer D]
    (hsubscribe : Φ (Checkpointer.subscribe : Operation (Checkpointer F P C D) Unit).run)
    (hreplay : Φ (Checkpointer.replay : Operation (Checkpointer F P C D) Replay.Summary).run)
    (hunsubscribe : Φ (Checkpointer.unsubscribe : Act (Checkpointer F P C D) Unit)) :
    Φ (Checkpointer.restore : Operation (Checkpointer F P C D) Replay.Summary).run := by
  refine hΦ.try_bind (hΦ.try_lift hget) fun s => ?_
  cases s.read.deserializer with
  | none => exact hΦ.try_throw _
  | some d =>
    refine hΦ.try_bind hsubscribe fun _ => ?_
    refine hΦ.try_bind (hΦ.try_lift (hΦ.tell _)) fun _ => ?_
    refine hΦ.try_bind (hΦ.try_lift hreplay) fun result => ?_
    refine hΦ.try_bind (hΦ.try_lift hunsubscribe) fun _ => ?_
    cases result with
    | error e => exact hΦ.try_throw e
    | ok summary =>
      exact hΦ.try_bind (hΦ.try_lift (hΦ.tell _)) fun _ => hΦ.try_pure summary

end Checkpointer

/-- A replay knows beforehand how many rounds it can take. -/
theorem Replay.Playback.run_apply {C D P : Type} [LogConsumer C] [Deserializer D] [LogProducer P]
    (timeout retries : Nat) (halt : HaltScope) (s : Playback C D P) (w : Shared) :
    run timeout retries halt s w =
      Replay.drain (poll timeout) take retries halt (s.rounds w) {} s w := by
  rw [run, Try.bind_of_ok (Try.get_apply s w), Try.bind_of_ok (Try.getThe_apply s w)]

end PositionLog
