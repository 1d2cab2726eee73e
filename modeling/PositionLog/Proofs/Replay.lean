import PositionLog.Replay
import PositionLog.Proofs.Broker.Poll
import PositionLog.Proofs.Broker.Reading
import Mathlib.Algebra.Order.Floor.Div

/-!
# What a replay hands over

The deserializer is any that always wants the next record, and all that is known of it is what it
keeps true (`Keeps`).  A step of the proof is one batch: it was unread, it is handed over record by
record, and what is unread then is found by the polls that follow.  Each batch makes the unread
records fewer, up to those that the deserializer itself adds, so the replay ends because its last
polls find nothing, not because it was given too few rounds.
-/

namespace PositionLog.Replay

open Broker (Consumer Subscription)

variable {C D P : Type} [LogProducer P] [Deserializer D]

/-- The deserializer always wants the next record, and keeps `J` true of the records that it was
given, of itself and of what is shared. -/
structure Keeps (topic : String) (start : Nat → Nat)
    (J : List Record → Intake D P → Shared → Prop) : Prop where
  told : ∀ {rs i w} (n : Log Notice), J rs i w → J rs i (w.withNotices n)
  taken : ∀ {rs r i w}, J rs i w → w.broker.ReadFrom topic start (rs ++ [r]) →
    ∃ i' w', Deserializer.deserialize r.key r.value i w = ((true, i'), w') ∧
      J (rs ++ [r]) i' w' ∧ w.broker.Extends w'.broker topic ∧
      w'.broker.recordCount topic + Deserializer.appends i'.deserializer ≤
        w.broker.recordCount topic + Deserializer.appends i.deserializer

variable {topic : String} {start : Nat → Nat} {J : List Record → Intake D P → Shared → Prop}

/-! ## One batch -/

/-- The records of a batch are handed over one after the other. -/
theorem feed_spec (hkeeps : Keeps topic start J) (batch : List Record) {rs : List Record}
    {s : Playback C D P} {w : Shared} (hJ : J rs s.toIntake w)
    (hread : w.broker.ReadFrom topic start (rs ++ batch)) :
    ∃ i' w', feed Playback.take rs.length batch s w =
        ((((rs ++ batch).length, false), { s with toIntake := i' }), w') ∧
      J (rs ++ batch) i' w' ∧ w.broker.Extends w'.broker topic ∧
      w'.broker.recordCount topic + Deserializer.appends i'.deserializer ≤
        w.broker.recordCount topic + Deserializer.appends s.deserializer := by
  induction batch generalizing rs s w with
  | nil =>
    rw [List.append_nil]
    exact ⟨s.toIntake, w, rfl, hJ, .refl _ _, Nat.le_refl _⟩
  | cons r batch ih =>
    rw [List.append_cons] at hread ⊢
    obtain ⟨i₁, w₁, hdes, hJ₁, hext₁, hle₁⟩ :=
      hkeeps.taken (hkeeps.told (w.notices.push (.read r.partition r.offset)) hJ) hread.of_append
    obtain ⟨i₂, w₂, hfeed, hJ₂, hext₂, hle₂⟩ :=
      ih (s := { s with toIntake := i₁ }) hJ₁ (hread.extends hext₁)
    have htake : Playback.take r.key r.value s
        (w.withNotices (w.notices.push (.read r.partition r.offset))) =
          ((true, { s with toIntake := i₁ }), w₁) := by
      rw [Playback.take, Act.on_apply, hdes]
    refine ⟨i₂, w₂, ?_, hJ₂, hext₁.trans hext₂, hle₂.trans hle₁⟩
    rw [List.length_append, List.length_singleton] at hfeed
    rw [feed, Act.bind_apply, Act.lift_apply, Shared.tell_eq, Act.bind_apply, htake]
    exact hfeed

/-- What is left to read is read in batches that are not empty. -/
theorem take_ne_nil {l : List Record} {limit : Nat} (hlimit : 0 < limit) (h : l ≠ []) :
    l.take limit ≠ [] := by
  intro htake
  rcases List.take_eq_nil_iff.mp htake with hzero | hnil
  · exact hlimit.ne' hzero
  · exact h hnil

section Polls

variable {s : Playback Consumer D P} {w : Shared} {sub : Subscription} {positions : Slots Nat}
  {n : Log Notice}

omit [LogProducer P] [Deserializer D] in
theorem poll_apply (timeout : Nat) :
    Playback.poll timeout s w =
      (((Consumer.poll s.consumer w).1.1, { s with consumer := (Consumer.poll s.consumer w).1.2 }),
        (Consumer.poll s.consumer w).2) := rfl

omit [LogProducer P] [Deserializer D] in
/-- An empty batch is not the last word. -/
theorem firstBatch_succ_of_nil {timeout retries : Nat} {c : Consumer} {w' : Shared}
    (h : Consumer.poll s.consumer w = ((.ok [], c), w')) :
    firstBatch (Playback.poll timeout) (retries + 1) s w =
      firstBatch (Playback.poll timeout) retries { s with consumer := c } w' := by
  rw [firstBatch, Try.bind_apply, poll_apply, h]
  rfl

omit [LogProducer P] [Deserializer D] in
theorem firstBatch_succ_of_ne_nil {timeout retries : Nat} {c : Consumer} {w' : Shared}
    {batch : List Record} (hne : batch ≠ [])
    (h : Consumer.poll s.consumer w = ((.ok batch, c), w')) :
    firstBatch (Playback.poll timeout) (retries + 1) s w =
      ((.ok batch, { s with consumer := c }), w') := by
  rw [firstBatch, Try.bind_apply, poll_apply, h]
  dsimp only
  rw [if_neg (by simpa using hne)]
  rfl

omit [LogProducer P] [Deserializer D] in
/-- A consumer that stalls less often than it is polled finds a batch, if there is one. -/
theorem firstBatch_spec (timeout : Nat) {retries : Nat} (hopen : s.consumer.closed = false)
    (hs : s.consumer.subscription = some sub) (ha : sub.assign w = (positions, w.withNotices n))
    (hstall : s.consumer.stalledPolls < retries) (hmax : 0 < s.consumer.maxPollRecords) :
    ∃ positions', firstBatch (Playback.poll timeout) retries s w =
        ((.ok ((w.broker.unreadAll sub.topic positions).take s.consumer.maxPollRecords),
          { s with consumer := s.consumer.reading sub positions' 0 (s.consumer.polls +
            if w.broker.unreadAll sub.topic positions = [] then retries
            else s.consumer.stalledPolls + 1) }), w.withNotices n) ∧
      Broker.Moved positions
        ((w.broker.unreadAll sub.topic positions).take s.consumer.maxPollRecords) positions' ∧
      w.broker.unreadAll sub.topic positions' =
        (w.broker.unreadAll sub.topic positions).drop s.consumer.maxPollRecords := by
  induction retries generalizing s w sub positions n with
  | zero => exact absurd hstall (Nat.not_lt_zero _)
  | succ retries ih =>
    cases hk : s.consumer.stalledPolls with
    | succ k =>
      -- A stalled poll is empty, and the next one stalls one time fewer.
      rw [firstBatch_succ_of_nil (Consumer.poll_of_stalled hopen hs ha hk)]
      obtain ⟨positions', hfirst, hmoved, hrest⟩ := ih
        (s := { s with consumer := s.consumer.reading sub positions k (s.consumer.polls + 1) })
        hopen rfl (Consumer.assign_some sub positions (w.withNotices n))
        (by simpa [hk] using hstall) hmax
      have hpolls : (s.consumer.polls + 1 +
          if w.broker.unreadAll sub.topic positions = [] then retries else k + 1) =
          s.consumer.polls +
            if w.broker.unreadAll sub.topic positions = [] then retries + 1 else k + 1 + 1 := by
        split <;> omega
      refine ⟨positions', hfirst.trans ?_, hmoved, hrest⟩
      rw [← hpolls]
      rfl
    | zero =>
      obtain ⟨positions', hpoll, hmoved, hrest⟩ := Consumer.poll_of_not_stalled hopen hs ha hk
      rw [Shared.broker_withNotices] at hpoll hmoved hrest
      by_cases hnil : w.broker.unreadAll sub.topic positions = []
      · rw [hnil, List.take_nil] at hpoll hmoved
        rw [hnil, List.drop_nil] at hrest
        rw [hnil, List.take_nil, List.drop_nil, if_pos rfl, firstBatch_succ_of_nil hpoll]
        cases retries with
        | zero => exact ⟨positions', rfl, hmoved, hrest⟩
        | succ retries =>
          obtain ⟨positions'', hfirst, hmoved', hrest'⟩ := ih
            (s := { s with consumer := s.consumer.reading sub positions' 0 (s.consumer.polls + 1) })
            hopen rfl (Consumer.assign_some sub positions' (w.withNotices n))
            (Nat.succ_pos retries) hmax
          simp only [Shared.broker_withNotices, hrest, List.take_nil, List.drop_nil, if_true,
            Consumer.polls_reading, Nat.add_assoc, Nat.add_comm 1] at hfirst hmoved' hrest'
          refine ⟨positions'', hfirst, fun p => ?_, hrest'⟩
          rw [hmoved' p, hmoved p]
          rfl
      · refine ⟨positions', ?_, hmoved, hrest⟩
        rw [firstBatch_succ_of_ne_nil (take_ne_nil hmax hnil) hpoll, if_neg hnil]

end Polls

/-! ## All batches -/

section Rounds

variable {S : Type} {poll : Request S (List Record)} {take : Bytes → Bytes → Act S Bool}
  {retries rounds : Nat} {halt : HaltScope} {sum : Summary} {s s₁ s₂ : S} {w w₁ w₂ : Shared}

theorem firstBatch_succ_of_poll_nil (h : poll s w = ((.ok [], s₁), w₁)) :
    firstBatch poll (retries + 1) s w = firstBatch poll retries s₁ w₁ := by
  rw [firstBatch, Try.bind_of_ok h]
  rfl

theorem firstBatch_succ_of_poll {x : Except BrokerError (List Record)}
    (h : poll s w = ((x, s₁), w₁)) (hx : x ≠ .ok []) :
    firstBatch poll (retries + 1) s w = ((x, s₁), w₁) := by
  match x with
  | .error cause => rw [firstBatch, Try.bind_apply, h]
  | .ok [] => exact absurd rfl hx
  | .ok (r :: rs) =>
    rw [firstBatch, Try.bind_of_ok h]
    rfl

theorem drain_succ_of_error {cause : BrokerError}
    (h : firstBatch poll retries s w = ((.error cause, s₁), w₁)) :
    drain poll take retries halt (rounds + 1) sum s w = ((.error cause, s₁), w₁) := by
  rw [drain, Try.bind_apply, h]

theorem drain_succ_of_batch {batch : List Record} {records : Nat} {halted : Bool}
    (h : firstBatch poll retries s w = ((.ok batch, s₁), w₁)) (hne : batch ≠ [])
    (hfeed : feed take sum.records batch s₁
      (w₁.withNotices (w₁.notices.push (.batch batch.length))) = (((records, halted), s₂), w₂)) :
    drain poll take retries halt (rounds + 1) sum s w =
      if halted && halt = .replay then
        ((.ok ⟨sum.batches + 1, records, sum.halted || halted⟩, s₂),
          w₂.withNotices (w₂.notices.push .replayEnded))
      else drain poll take retries halt rounds ⟨sum.batches + 1, records, sum.halted || halted⟩
        s₂ w₂ := by
  rw [drain, Try.bind_of_ok h, if_neg (by simpa using hne),
    Try.bind_of_ok (Try.lift_of_eq (Shared.tell_eq _ w₁)),
    Try.bind_of_ok (Try.liftAct_of_eq hfeed)]
  exact Try.ite_apply _ _ _ s₂ w₂

theorem drain_succ_of_nil (hfirst : firstBatch poll retries s w = ((.ok [], s₁), w₁)) :
    drain poll take retries halt (rounds + 1) sum s w = ((.ok sum, s₁), w₁) := by
  rw [drain, Try.bind_apply, hfirst]
  rfl

theorem drain_succ {batch : List Record} {records : Nat}
    (hfirst : firstBatch poll retries s w = ((.ok batch, s₁), w₁)) (hne : batch ≠ [])
    (hfeed : feed take sum.records batch s₁
      (w₁.withNotices (w₁.notices.push (.batch batch.length))) = (((records, false), s₂), w₂)) :
    drain poll take retries halt (rounds + 1) sum s w =
      drain poll take retries halt rounds ⟨sum.batches + 1, records, sum.halted⟩ s₂ w₂ := by
  rw [drain_succ_of_batch hfirst hne hfeed, Bool.false_and, if_neg Bool.false_ne_true,
    Bool.or_false]

end Rounds

/-- Where a replay is between two batches: these records were handed over, and the next batch is
taken at these positions. -/
structure Reached (topic : String) (start : Nat → Nat)
    (J : List Record → Intake D P → Shared → Prop) (rs : List Record) (positions : Slots Nat)
    (i : Intake D P) (w : Shared) : Prop where
  kept : J rs i w
  readFrom : w.broker.ReadFrom topic start rs
  upTo : w.broker.ReadUpTo start rs positions

theorem Reached.told (hkeeps : Keeps topic start J) {rs : List Record} {positions : Slots Nat}
    {i : Intake D P} {w : Shared} (h : Reached topic start J rs positions i w) (n : Log Notice) :
    Reached topic start J rs positions i (w.withNotices n) :=
  ⟨hkeeps.told n h.kept, h.readFrom, h.upTo⟩

/-- A batch is handed over, and there is less to do than before. -/
theorem Reached.feed (hkeeps : Keeps topic start J) {rs : List Record} {s : Playback C D P}
    {positions positions' : Slots Nat} {w : Shared} {limit : Nat} (hlimit : 0 < limit)
    (h : Reached topic start J rs positions s.toIntake w)
    (hmoved : Broker.Moved positions ((w.broker.unreadAll topic positions).take limit) positions')
    (hrest : w.broker.unreadAll topic positions' =
      (w.broker.unreadAll topic positions).drop limit)
    (hne : w.broker.unreadAll topic positions ≠ []) :
    let rs' := rs ++ (w.broker.unreadAll topic positions).take limit
    ∃ i' w', feed Playback.take rs.length ((w.broker.unreadAll topic positions).take limit) s w =
        (((rs'.length, false), { s with toIntake := i' }), w') ∧
      Reached topic start J rs' positions' i' w' ∧ w.broker.Extends w'.broker topic ∧
      w'.broker.unread topic positions' + Deserializer.appends i'.deserializer <
        w.broker.unread topic positions + Deserializer.appends s.deserializer := by
  obtain ⟨i', w', hfeed, hJ, hext, hle⟩ :=
    feed_spec hkeeps _ h.kept (h.readFrom.append_batch h.upTo limit)
  refine ⟨i', w', hfeed, ⟨hJ, ?_, ?_⟩, hext, ?_⟩
  · exact (h.readFrom.append_batch h.upTo limit).extends hext
  · exact (h.upTo.append_batch hmoved).extends hext
  · have hgrow := hext.unread_le positions'
    have hpos := List.length_pos_of_ne_nil hne
    rw [w.broker.unread_eq topic positions', hrest, List.length_drop] at hgrow
    rw [w.broker.unread_eq topic positions]
    omega

/-- What is left after a batch takes one batch less. -/
theorem ceilDiv_eq_add_one {n limit : Nat} (hlimit : 0 < limit) (hn : 0 < n) :
    n ⌈/⌉ limit = (n - limit) ⌈/⌉ limit + 1 := by
  rw [Nat.ceilDiv_eq_add_pred_div, Nat.ceilDiv_eq_add_pred_div]
  rcases Nat.le_total limit n with hle | hle
  · rw [Nat.sub_add_cancel hle, ← Nat.add_div_right _ hlimit]
    congr 1
    omega
  · rw [Nat.sub_eq_zero_of_le hle, Nat.zero_add, Nat.div_eq_of_lt (Nat.sub_lt hlimit Nat.one_pos)]
    exact Nat.div_eq_of_lt_le (by omega) (by omega)

/-- With enough rounds, a replay ends when its polls find nothing more.  If nothing is added
meanwhile, what it hands over is what was unread, and in no more batches than that takes. -/
theorem drain_spec (hkeeps : Keeps topic start J) (timeout : Nat) {retries : Nat}
    (halt : HaltScope) {rounds : Nat} {rs : List Record} {s : Playback Consumer D P} {w : Shared}
    {sub : Subscription} {positions : Slots Nat} {n : Log Notice} (batches : Nat)
    (hopen : s.consumer.closed = false) (hs : s.consumer.subscription = some sub)
    (htopic : sub.topic = topic) (ha : sub.assign w = (positions, w.withNotices n))
    (hstall : s.consumer.stalledPolls < retries) (hmax : 0 < s.consumer.maxPollRecords)
    (h : Reached topic start J rs positions s.toIntake w)
    (hrounds : w.broker.unread topic positions + Deserializer.appends s.deserializer < rounds) :
    ∃ k rs' i' positions' w',
      drain (Playback.poll timeout) Playback.take retries halt rounds ⟨batches, rs.length, false⟩
          s w =
        ((.ok ⟨batches + k, rs'.length, false⟩, { i' with
          consumer := s.consumer.reading sub positions' 0 (s.consumer.polls + k + retries +
            if k = 0 then 0 else s.consumer.stalledPolls) }), w') ∧
      Reached topic start J rs' positions' i' w' ∧ w.broker.Extends w'.broker topic ∧
      w'.broker.unreadAll topic positions' = [] ∧
      (w'.broker.Extends w.broker topic → rs' = rs ++ w.broker.unreadAll topic positions ∧
        k = w.broker.unread topic positions ⌈/⌉ s.consumer.maxPollRecords) := by
  -- Each batch leaves less to do, so the rounds are never used up.
  induction rounds generalizing rs s w sub positions n batches with
  | zero => exact absurd hrounds (Nat.not_lt_zero _)
  | succ rounds ih =>
    obtain ⟨positions₁, hfirst, hmoved, hrest⟩ :=
      firstBatch_spec timeout hopen hs ha hstall hmax
    rw [htopic] at hfirst hmoved hrest
    by_cases hnil : w.broker.unreadAll topic positions = []
    · rw [hnil, List.take_nil, if_pos rfl] at hfirst
      rw [hnil, List.take_nil] at hmoved
      rw [hnil, List.drop_nil] at hrest
      have hup : w.broker.ReadUpTo start rs positions₁ := by
        have hup := h.upTo.append_batch hmoved
        rwa [List.append_nil] at hup
      refine ⟨0, rs, s.toIntake, positions₁, w.withNotices n, drain_succ_of_nil hfirst,
        ⟨hkeeps.told n h.kept, h.readFrom, hup⟩, .refl _ _, hrest, fun _ => ?_⟩
      rw [w.broker.unread_eq, hnil, List.append_nil, List.length_nil, zero_ceilDiv]
      exact ⟨rfl, rfl⟩
    · let batch := (w.broker.unreadAll topic positions).take s.consumer.maxPollRecords
      have hne : batch ≠ [] := take_ne_nil hmax hnil
      rw [if_neg hnil] at hfirst
      let c := s.consumer.reading sub positions₁ 0
        (s.consumer.polls + (s.consumer.stalledPolls + 1))
      obtain ⟨i₁, w₁, hfeed, h₁, hext₁, hless⟩ :=
        (h.told hkeeps (n.push (.batch batch.length))).feed hkeeps (s := { s with consumer := c })
          hmax hmoved hrest hnil
      obtain ⟨k, rs₂, i₂, positions₂, w₂, hdrain, h₂, hext₂, hnone, hall⟩ :=
        ih (s := { i₁ with consumer := c }) (batches + 1) hopen rfl htopic
          (Consumer.assign_some sub positions₁ w₁) (Nat.zero_lt_of_lt hstall) hmax h₁
          (Nat.lt_of_lt_of_le hless (Nat.le_of_lt_succ hrounds))
      have hpolls : s.consumer.polls + (s.consumer.stalledPolls + 1) + k + retries +
          (if k = 0 then 0 else 0) =
          s.consumer.polls + (k + 1) + retries + s.consumer.stalledPolls := by
        split <;> omega
      refine ⟨k + 1, rs₂, i₂, positions₂, w₂, ?_, h₂, hext₁.trans hext₂, hnone, fun hsame => ?_⟩
      · rw [drain_succ hfirst hne hfeed, hdrain, if_neg k.succ_ne_zero, ← hpolls,
          Nat.add_right_comm, Nat.add_assoc batches]
        rfl
      · have hleft : w₁.broker.unreadAll topic positions₁ =
            (w.broker.unreadAll topic positions).drop s.consumer.maxPollRecords :=
          (hext₁.unreadAll_eq (hext₂.trans hsame) positions₁).trans hrest
        obtain ⟨hrs, hk⟩ := hall (hsame.trans hext₁)
        rw [w₁.broker.unread_eq, hleft, List.length_drop] at hk
        rw [hleft] at hrs
        constructor
        · rw [hrs, List.append_assoc]
          exact congrArg (rs ++ ·) (List.take_append_drop _ _)
        · rw [hk, w.broker.unread_eq]
          exact (ceilDiv_eq_add_one hmax (List.length_pos_of_ne_nil hnil)).symm

/-- As many records are unread as the consumer itself takes into account, or fewer. -/
theorem unread_le_backlog {c : Consumer} {sub : Subscription} (hs : c.subscription = some sub)
    (w : Shared) : w.broker.unread sub.topic (sub.settled w.broker) ≤ c.backlog w := by
  obtain ⟨topic, listener, positions⟩ := sub
  rw [Consumer.backlog, hs]
  cases positions with
  | none => exact w.broker.unread_le_recordCount topic _
  | some positions => exact Nat.le_refl _

/-- A replay hands over all records that are there in the end, from where each partition was read
next when it began. -/
theorem run_of_assigned (timeout : Nat) {retries : Nat} (halt : HaltScope)
    {s : Playback Consumer D P} {w : Shared} {sub : Subscription} {n : Log Notice}
    (hopen : s.consumer.closed = false) (hs : s.consumer.subscription = some sub)
    (ha : sub.assign w = (sub.settled w.broker, w.withNotices n))
    (hstall : s.consumer.stalledPolls < retries) (hmax : 0 < s.consumer.maxPollRecords)
    (hkeeps : Keeps sub.topic start J) (hJ : J [] s.toIntake w)
    (hstart : ∀ p < w.broker.partitions, sub.start w.broker p = start p) :
    ∃ k rs i' positions w',
      Playback.run timeout retries halt s w =
        ((.ok ⟨k, rs.length, false⟩, { i' with
          consumer := s.consumer.reading sub positions 0
            (s.consumer.polls + k + retries + if k = 0 then 0 else s.consumer.stalledPolls) }),
          w') ∧
      J rs i' w' ∧ w.broker.Extends w'.broker sub.topic ∧
      w'.broker.ReadAll sub.topic start rs ∧ w'.broker.unreadAll sub.topic positions = [] ∧
      (w'.broker.Extends w.broker sub.topic →
        rs = w.broker.unreadAll sub.topic (sub.settled w.broker) ∧
        k = w.broker.unread sub.topic (sub.settled w.broker) ⌈/⌉ s.consumer.maxPollRecords) := by
  have hrounds : w.broker.unread sub.topic (sub.settled w.broker) +
      Deserializer.appends s.deserializer < s.rounds w := by
    have hle : w.broker.unread sub.topic (sub.settled w.broker) ≤
        LogConsumer.backlog s.consumer w := unread_le_backlog hs w
    rw [Playback.rounds]
    omega
  obtain ⟨k, rs, i', positions, w', hdrain, h, hext, hnone, hall⟩ :=
    drain_spec hkeeps timeout halt 0 hopen hs rfl ha hstall hmax
      ⟨hJ, w.broker.readFrom_nil sub.topic _, fun p hp =>
        (sub.getD_settled w.broker p).trans (hstart p hp)⟩ hrounds
  refine ⟨k, rs, i', positions, w', ?_, h.kept, hext, h.readFrom.readAll h.upTo hnone, hnone, hall⟩
  rw [Nat.zero_add] at hdrain
  exact hdrain

/-- A replay hands over all records that are there in the end, from where each partition ended back
when it began. -/
theorem run_spec (timeout : Nat) {retries : Nat} (halt : HaltScope) {depth : Nat}
    {s : Playback Consumer D P} {w : Shared} (hopen : s.consumer.closed = false)
    (hs : s.consumer.subscription = some { topic, listener := Broker.rewinding depth })
    (hstall : s.consumer.stalledPolls < retries) (hmax : 0 < s.consumer.maxPollRecords)
    (hkeeps : Keeps topic (w.broker.startOf topic depth) J) (hJ : J [] s.toIntake w) :
    ∃ k rs i' positions w',
      Playback.run timeout retries halt s w =
        ((.ok ⟨k, rs.length, false⟩, { i' with
          consumer := s.consumer.reading { topic, listener := Broker.rewinding depth } positions 0
            (s.consumer.polls + k + retries + if k = 0 then 0 else s.consumer.stalledPolls) }),
          w') ∧
      J rs i' w' ∧ w.broker.Extends w'.broker topic ∧
      w'.broker.ReadAll topic (w.broker.startOf topic depth) rs := by
  obtain ⟨n, ha⟩ := Subscription.assign_rewind
    { topic, listener := Broker.rewinding depth } (Broker.rewinding_rewinds depth) w
  obtain ⟨k, rs, i', positions, w', hrun, hkept, hext, hall, -, -⟩ :=
    run_of_assigned timeout halt hopen hs ha hstall hmax hkeeps hJ
      fun p hp => Broker.start_rewinding hp topic depth
  exact ⟨k, rs, i', positions, w', hrun, hkept, hext, hall⟩

end PositionLog.Replay
