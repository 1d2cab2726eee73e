import PositionLog.Proofs.Congruence
import PositionLog.Proofs.Replay

/-!
# Whether the rounds of a replay suffice

A replay goes on as long as its polls find something, so whether it ends at all is up to its
clients.  The rounds that it is given are counted from what these tell of themselves: a consumer how
many batches it can find, and a deserializer how many records it may add.  That is lawful if it
counts each batch and each record that is added.  Then a replay is over before its rounds are, and
would come to the same if it were given more of them.
-/

namespace PositionLog

/-! ## Logs that grow -/

/-- Nothing was done to the logs but to add records, and at most so many to each topic. -/
structure Broker.Grows (n : Nat) (b b' : Broker) : Prop where
  extends_ (topic : String) : b.Extends b' topic
  recordCount_le (topic : String) : b'.recordCount topic ≤ b.recordCount topic + n

namespace Broker.Grows

variable {m n : Nat} {b b' b'' : Broker}

theorem refl (b : Broker) : b.Grows 0 b := ⟨.refl b, fun _ => Nat.le_refl _⟩

theorem trans (h : b.Grows m b') (h' : b'.Grows n b'') : b.Grows (m + n) b'' where
  extends_ topic := (h.extends_ topic).trans (h'.extends_ topic)
  recordCount_le topic := by
    have hle := h.recordCount_le topic
    have hle' := h'.recordCount_le topic
    omega

theorem mono (h : b.Grows m b') (hmn : m ≤ n) : b.Grows n b' where
  extends_ := h.extends_
  recordCount_le topic := (h.recordCount_le topic).trans (Nat.add_le_add_left hmn _)

theorem of_eq (h : b' = b) : b.Grows 0 b' := h ▸ refl b

theorem of_sameLogs (h : b.SameLogs b') : b.Grows 0 b' where
  extends_ := h.extends
  recordCount_le topic := Nat.le_of_eq (h.recordCount_eq topic)

theorem push (b : Broker) (topic : String) (e : Entry) : b.Grows 1 (b.push topic e) where
  extends_ := b.extends_push topic e
  recordCount_le t := by
    rw [recordCount_push]
    split <;> omega

theorem append {topic : String} {e : Entry} {x : Metadata × Broker}
    (h : b.append topic e = .ok x) : b.Grows 1 x.2 := by
  rw [append_eq] at h
  split at h
  · cases h
  · cases h
    exact push b topic e

theorem appendAll (b : Broker) (topic : String) (places : List Metadata) (es : List Entry) :
    b.Grows es.length (b.appendAll topic places es).2 := by
  induction es generalizing b places with
  | nil => exact refl b
  | cons e es ih =>
    rw [Broker.appendAll]
    cases h : b.append topic e with
    | error cause => exact (refl b).mono (Nat.zero_le _)
    | ok x => exact ((append h).trans (ih x.2 _)).mono (Nat.le_of_eq (Nat.add_comm 1 _))

/-- A command adds no more than it may. -/
theorem run (b : Broker) (c : Command) : b.Grows c.appends (b.run c).2 := by
  cases c with
  | append topic key value =>
    rw [Broker.run]
    cases h : b.append topic ⟨key, value⟩ with
    | error cause => exact (refl b).mono (Nat.zero_le _)
    | ok x => exact append h
  | appendMany topic stem first last factor =>
    refine (appendAll b topic [] _).mono (Nat.le_of_eq ?_)
    rw [List.length_map, range, List.length_map, List.length_range]
    rfl
  | setUnavailable on => exact of_sameLogs ⟨rfl, rfl⟩
  | setQueueFull on => exact of_sameLogs ⟨rfl, rfl⟩
  | recordCount topic => exact refl b
  | endOffset p => exact refl b
  | counts => exact refl b

end Broker.Grows

/-! ## The laws -/

/-- A step that adds no more than so many records to each topic. -/
def Act.Adds {S α : Type} (n : Nat) (x : Act S α) : Prop :=
  ∀ (s : S) (w : Shared), w.broker.Grows n (x s w).2.broker

/-- A producer that adds no more than the record that it is given. -/
class LawfulProducer (P : Type) [LogProducer P] : Prop where
  send (topic : String) (key value : Bytes) (t : Ticket) :
    (LogProducer.send topic key value t : Request P Receipt).run.Adds 1

/-- A consumer that finds no more batches than it tells, unless records are added. -/
class LawfulConsumer (C : Type) [LogConsumer C] : Prop where
  poll (timeout : Nat) (c : C) (w : Shared) :
    let x := (LogConsumer.poll timeout : Request C (List Record)) c w
    ∀ batch, x.1.1 = .ok batch →
      LogConsumer.backlog x.1.2 x.2 + min 1 batch.length ≤ LogConsumer.backlog c w
  grows {n : Nat} (c : C) {w w' : Shared} :
    w.broker.Grows n w'.broker → LogConsumer.backlog c w' ≤ LogConsumer.backlog c w + n

/-- A deserializer that adds no more records than it tells. -/
class LawfulDeserializer (D : Type) [Deserializer D] : Prop where
  deserialize {P : Type} [LogProducer P] [LawfulProducer P] (key value : Bytes) (i : Intake D P)
    (w : Shared) :
    let x := (Deserializer.deserialize key value : Act (Intake D P) Bool) i w
    ∃ n, w.broker.Grows n x.2.broker ∧
      Deserializer.appends x.1.2.deserializer + n ≤ Deserializer.appends i.deserializer

/-! ## The end of a replay -/

namespace Replay.Playback

variable {C D P : Type} [LogConsumer C] [Deserializer D] [LogProducer P]

/-- The replay would come to the same if it were given more rounds. -/
def Ends (timeout retries : Nat) (halt : HaltScope) (s : Playback C D P) (w : Shared) : Prop :=
  ∀ rounds, s.rounds w ≤ rounds →
    drain (poll timeout) take retries halt rounds {} s w = run timeout retries halt s w

/-- What is still to come, in batches and in records that may be added. -/
def remaining (s : Playback C D P) (w : Shared) : Nat :=
  LogConsumer.backlog s.consumer w + Deserializer.appends s.deserializer

variable [LawfulConsumer C]

omit [LogProducer P] in
/-- Nothing more is to come because of what is told. -/
theorem remaining_withNotices (s : Playback C D P) (w : Shared) (n : Log Notice) :
    s.remaining (w.withNotices n) ≤ s.remaining w := by
  have hgrows : w.broker.Grows 0 (w.withNotices n).broker := .refl w.broker
  exact Nat.add_le_add_right (LawfulConsumer.grows s.consumer hgrows) _

omit [LogProducer P] in
/-- A batch is found at the expense of the backlog. -/
theorem remaining_firstBatch {timeout retries : Nat} {s s' : Playback C D P} {w w' : Shared}
    {batch : List Record}
    (h : firstBatch (poll timeout) retries s w = ((.ok batch, s'), w')) :
    s'.remaining w' + min 1 batch.length ≤ s.remaining w := by
  induction retries generalizing s w with
  | zero =>
    cases h
    exact Nat.le_refl _
  | succ retries ih =>
    rcases hpoll : (poll timeout : Request (Playback C D P) _) s w with ⟨⟨answer, s₁⟩, w₁⟩
    have hle {found : List Record} (hfound : answer = .ok found) :
        s₁.remaining w₁ + min 1 found.length ≤ s.remaining w := by
      subst hfound
      have hlaw := LawfulConsumer.poll timeout s.consumer w
      rcases hc : (LogConsumer.poll timeout : Request C (List Record)) s.consumer w with
        ⟨⟨result, c⟩, w₂⟩
      rw [hc] at hlaw
      rw [poll, Try.on_apply, hc] at hpoll
      cases hpoll
      have hbacklog := hlaw found rfl
      dsimp only [remaining] at hbacklog ⊢
      omega
    match answer with
    | .error cause =>
      rw [firstBatch_succ_of_poll hpoll nofun] at h
      cases h
    | .ok [] =>
      rw [firstBatch_succ_of_poll_nil hpoll] at h
      exact (ih h).trans (hle rfl)
    | .ok (r :: rs) =>
      rw [firstBatch_succ_of_poll hpoll nofun] at h
      cases h
      exact hle rfl

variable [LawfulDeserializer D] [LawfulProducer P]

/-- What is added while a record is taken was still to come. -/
theorem remaining_take (key value : Bytes) (s : Playback C D P) (w : Shared) :
    (take key value s w).1.2.remaining (take key value s w).2 ≤ s.remaining w := by
  obtain ⟨n, hgrows, hle⟩ := LawfulDeserializer.deserialize key value s.toIntake w
  have hbacklog := LawfulConsumer.grows s.consumer hgrows
  rw [take, Act.on_apply]
  dsimp only [remaining] at hle ⊢
  omega

theorem remaining_feed (batch : List Record) (records : Nat) (s : Playback C D P) (w : Shared) :
    (feed take records batch s w).1.2.remaining (feed take records batch s w).2 ≤
      s.remaining w := by
  induction batch generalizing records s w with
  | nil => exact Nat.le_refl _
  | cons r batch ih =>
    have htold := s.remaining_withNotices w (w.notices.push (.read r.partition r.offset))
    have htake := remaining_take r.key r.value s
      (w.withNotices (w.notices.push (.read r.partition r.offset)))
    rw [feed, Act.bind_of_eq (Act.lift_of_eq (Shared.tell_eq _ w)), Act.bind_apply]
    split
    · exact ((ih _ _ _).trans htake).trans htold
    · exact htake.trans htold

/-- With more rounds than there is still to come, it does not matter how many these are. -/
theorem drain_eq {timeout retries : Nat} {halt : HaltScope} {rounds rounds' : Nat} (sum : Summary)
    {s : Playback C D P} {w : Shared} (hrounds : s.remaining w < rounds) (hle : rounds ≤ rounds') :
    drain (poll timeout) take retries halt rounds' sum s w =
      drain (poll timeout) take retries halt rounds sum s w := by
  -- Each round that does not end the replay leaves less to come.
  induction rounds generalizing rounds' sum s w with
  | zero => exact absurd hrounds (Nat.not_lt_zero _)
  | succ rounds ih =>
    obtain ⟨rounds', rfl⟩ := Nat.exists_eq_add_of_le' (Nat.one_le_of_lt hle)
    rcases hfirst : firstBatch (poll timeout) retries s w with ⟨⟨answer, s₁⟩, w₁⟩
    match answer with
    | .error cause => rw [drain_succ_of_error hfirst, drain_succ_of_error hfirst]
    | .ok [] => rw [drain_succ_of_nil hfirst, drain_succ_of_nil hfirst]
    | .ok (r :: rs) =>
      have hfound := remaining_firstBatch hfirst
      have htold := s₁.remaining_withNotices w₁ (w₁.notices.push (.batch (r :: rs).length))
      have hfed := remaining_feed (r :: rs) sum.records s₁
        (w₁.withNotices (w₁.notices.push (.batch (r :: rs).length)))
      rcases hfeed : feed take sum.records (r :: rs) s₁
        (w₁.withNotices (w₁.notices.push (.batch (r :: rs).length))) with
        ⟨⟨⟨records, halted⟩, s₂⟩, w₂⟩
      rw [hfeed] at hfed
      rw [drain_succ_of_batch hfirst nofun hfeed, drain_succ_of_batch hfirst nofun hfeed]
      split
      · rfl
      · refine ih _ ?_ (Nat.le_of_succ_le_succ hle)
        rw [List.length_cons] at hfound
        dsimp only at hfed
        omega

/-- A replay of lawful clients is over before its rounds are. -/
theorem ends_of_lawful (timeout retries : Nat) (halt : HaltScope) (s : Playback C D P)
    (w : Shared) : s.Ends timeout retries halt w := by
  intro rounds hle
  rw [run_apply]
  exact drain_eq {} (Nat.lt_succ_self _) hle

end Replay.Playback

end PositionLog
