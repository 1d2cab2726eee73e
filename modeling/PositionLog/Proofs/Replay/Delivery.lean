import PositionLog.Broker.Producer
import PositionLog.Proofs.Loader

/-!
# What a replay delivers

Nothing is added to the log while it is replayed.  Then a replay delivers what was unread when it
began, whatever the size of its batches and however often it polls; unless its polls are too few to
outlast the stalls of the consumer, when it delivers nothing and the next replay begins where it
began.
-/

namespace PositionLog

/-- What is delivered of a record. -/
def Record.toEntry (r : Record) : Entry := ⟨r.key, r.value⟩

namespace Replay

open Broker (Consumer Subscription)

/-! ## The deserializer -/

/-- A deserializer, and a transcript of what it was given. -/
structure Transcribed (D : Type) where
  deserializer : D
  given : List Entry := []

namespace Transcribed

variable {D P : Type}

/-- What the deserializer itself works on. -/
def intake (i : Intake (Transcribed D) P) : Intake D P := ⟨i.deserializer.deserializer, i.write⟩

def setIntake (j : Intake D P) (i : Intake (Transcribed D) P) : Intake (Transcribed D) P :=
  ⟨{ i.deserializer with deserializer := j.deserializer }, j.write⟩

def deserialize [LogProducer P] [Deserializer D] (key value : Bytes) :
    Act (Intake (Transcribed D) P) Bool := do
  let more ← Act.on intake setIntake (Deserializer.deserialize key value)
  modify fun i => { i with
    deserializer := { i.deserializer with given := i.deserializer.given ++ [⟨key, value⟩] } }
  return more

end Transcribed

instance {D : Type} [Deserializer D] : Deserializer (Transcribed D) where
  deserialize := Transcribed.deserialize
  appends d := Deserializer.appends d.deserializer

variable {D P : Type} [LogProducer P] [Deserializer D]

/-- As long as `I` holds, and it always does, the deserializer wants the next record, and adds
nothing to the log. -/
def Willing (I : Intake D P → Prop) : Prop :=
  ∀ key value i w, I i → ∃ i' w',
    Deserializer.deserialize key value i w = ((true, i'), w') ∧ I i' ∧
    w.broker.SameLogs w'.broker ∧
    Deserializer.appends i'.deserializer ≤ Deserializer.appends i.deserializer

/-- These records were given, after what is `given`, and the log is as it was. -/
structure Given (I : Intake D P → Prop) (given : List Entry) (b : Broker) (rs : List Record)
    (i : Intake (Transcribed D) P) (w : Shared) : Prop where
  kept : I (Transcribed.intake i)
  given : i.deserializer.given = given ++ rs.map Record.toEntry
  logs : b.SameLogs w.broker

variable {I : Intake D P → Prop}

/-- What the deserializer takes is put down. -/
theorem Given.deserialize (hI : Willing I) {given : List Entry} {b : Broker} {rs : List Record}
    {i : Intake (Transcribed D) P} {w : Shared} (h : Given I given b rs i w) (r : Record) :
    ∃ i' w', Transcribed.deserialize r.key r.value i w = ((true, i'), w') ∧
      Given I given b (rs ++ [r]) i' w' ∧ w.broker.SameLogs w'.broker ∧
      Deserializer.appends i'.deserializer ≤ Deserializer.appends i.deserializer := by
  obtain ⟨j, w', hdes, hj, hlogs, happends⟩ := hI r.key r.value _ w h.kept
  refine ⟨_, w', Act.bind_of_eq (Act.on_of_eq hdes), ⟨hj, ?_, h.logs.trans hlogs⟩, hlogs, happends⟩
  rw [List.map_append, ← List.append_assoc, ← h.given]
  rfl

theorem keeps_given (hI : Willing I) (given : List Entry) (b : Broker) (topic : String)
    (start : Nat → Nat) : Keeps topic start (Given I given b) where
  told _ h := ⟨h.kept, h.given, h.logs⟩
  taken {_ r _ _} h _ := by
    obtain ⟨i', w', hdes, h', hlogs, happends⟩ := h.deserialize hI r
    refine ⟨i', w', hdes, h', hlogs.extends topic, ?_⟩
    rw [hlogs.recordCount_eq]
    exact Nat.add_le_add_left happends _

/-! ## One run -/

section Stalled

variable {s : Playback Consumer D P} {w : Shared} {sub : Subscription} {positions : Slots Nat}
  {n : Log Notice}

omit [LogProducer P] [Deserializer D] in
/-- As many polls as there are stalls, or fewer, find nothing, and the stalls become fewer. -/
theorem firstBatch_of_stalled (timeout : Nat) {retries : Nat} (hopen : s.consumer.closed = false)
    (hs : s.consumer.subscription = some sub) (ha : sub.assign w = (positions, w.withNotices n))
    (hstall : retries + 1 ≤ s.consumer.stalledPolls) :
    firstBatch (Playback.poll timeout) (retries + 1) s w =
      ((.ok [], { s with
        consumer := s.consumer.reading sub positions (s.consumer.stalledPolls - (retries + 1))
          (s.consumer.polls + (retries + 1)) }), w.withNotices n) := by
  induction retries generalizing s w sub n with
  | zero =>
    obtain ⟨k, hk⟩ := Nat.exists_eq_add_of_le' hstall
    rw [firstBatch_succ_of_nil (Consumer.poll_of_stalled hopen hs ha hk), hk]
    rfl
  | succ retries ih =>
    obtain ⟨k, hk⟩ := Nat.exists_eq_add_of_le' (Nat.le_trans (Nat.le_add_left 1 _) hstall)
    rw [hk] at hstall
    let c := s.consumer.reading sub positions k (s.consumer.polls + 1)
    have hrest := ih (s := { s with consumer := c }) hopen rfl
      (Consumer.assign_some sub positions (w.withNotices n)) (Nat.le_of_succ_le_succ hstall)
    have hpolls : s.consumer.polls + 1 + (retries + 1) = s.consumer.polls + (retries + 1 + 1) := by
      rw [Nat.add_assoc, Nat.add_comm 1]
    rw [firstBatch_succ_of_nil (Consumer.poll_of_stalled hopen hs ha hk), hk,
      Nat.add_sub_add_right k 1, ← hpolls]
    exact hrest

/-- Such a replay gives up.  It begins where the next one will begin. -/
theorem run_of_stalled (timeout : Nat) {retries : Nat} (halt : HaltScope)
    (hopen : s.consumer.closed = false) (hs : s.consumer.subscription = some sub)
    (ha : sub.assign w = (positions, w.withNotices n)) (hretries : 0 < retries)
    (hstall : retries ≤ s.consumer.stalledPolls) :
    Playback.run timeout retries halt s w =
      ((.ok {}, { s with
        consumer := s.consumer.reading sub positions (s.consumer.stalledPolls - retries)
          (s.consumer.polls + retries) }), w.withNotices n) := by
  obtain ⟨retries, rfl⟩ := Nat.exists_eq_add_of_le' hretries
  exact drain_succ_of_nil (firstBatch_of_stalled timeout hopen hs ha hstall)

end Stalled

section Delivery

variable {s : Playback Consumer (Transcribed D) P} {w : Shared} {sub : Subscription}

theorem run_of_not_stalled (hI : Willing I) (timeout : Nat) {retries : Nat} (halt : HaltScope)
    (hs₀ : I (Transcribed.intake s.toIntake)) (hopen : s.consumer.closed = false)
    (hs : s.consumer.subscription = some sub) (hsub : ∀ l ∈ sub.listener, ∃ r, l = .rewind r)
    (hmax : 0 < s.consumer.maxPollRecords) (hstall : s.consumer.stalledPolls < retries) :
    ∃ (i : Intake (Transcribed D) P) (positions : Slots Nat) (w' : Shared),
      Playback.run timeout retries halt s w =
        ((.ok ⟨(sub.unread w.broker).length ⌈/⌉ s.consumer.maxPollRecords,
            (sub.unread w.broker).length, false⟩,
          { i with
            consumer := s.consumer.reading sub positions 0 (s.consumer.polls +
              if sub.unread w.broker = [] then retries
              else s.consumer.stalledPolls +
                (sub.unread w.broker).length ⌈/⌉ s.consumer.maxPollRecords + retries) }), w') ∧
      i.deserializer.given =
        s.deserializer.given ++ (sub.unread w.broker).map Record.toEntry := by
  obtain ⟨n, ha⟩ := sub.assign_rewind hsub w
  obtain ⟨k, rs, i, positions, w', hrun, hgiven, -, -, -, hall⟩ :=
    run_of_assigned timeout halt hopen hs ha hstall hmax
      (keeps_given hI s.deserializer.given w.broker sub.topic (sub.start w.broker))
      ⟨hs₀, (List.append_nil _).symm, .refl _⟩ (fun _ _ => rfl)
  obtain ⟨hrs, hk⟩ := hall (hgiven.logs.symm.extends sub.topic)
  rw [w.broker.unread_eq, sub.unreadAll_settled] at hk
  rw [sub.unreadAll_settled] at hrs
  subst hrs hk
  have hpolls : s.consumer.polls + (sub.unread w.broker).length ⌈/⌉ s.consumer.maxPollRecords +
      retries + (if (sub.unread w.broker).length ⌈/⌉ s.consumer.maxPollRecords = 0 then 0
        else s.consumer.stalledPolls) =
      s.consumer.polls + if sub.unread w.broker = [] then retries
        else s.consumer.stalledPolls +
          (sub.unread w.broker).length ⌈/⌉ s.consumer.maxPollRecords + retries := by
    by_cases hnil : sub.unread w.broker = []
    · rw [hnil, List.length_nil, zero_ceilDiv, if_pos rfl, if_pos rfl, Nat.add_zero, Nat.add_zero]
    · rw [ceilDiv_eq_add_one hmax (List.length_pos_of_ne_nil hnil), if_neg (Nat.succ_ne_zero _),
        if_neg hnil]
      omega
  rw [hpolls] at hrun
  exact ⟨i, positions, w', hrun, hgiven.given⟩

end Delivery

/-! ## One run after another -/

/-- So many replays, as long as none of them fails. -/
def Playback.runs {C : Type} [LogConsumer C] (timeout retries : Nat) (halt : HaltScope) :
    Nat → Request (Playback C D P) (List Summary)
  | 0 => return []
  | n + 1 => do
    let sum ← Playback.run timeout retries halt
    let sums ← runs timeout retries halt n
    return sum :: sums

section Runs

variable {s : Playback Consumer (Transcribed D) P} {w : Shared} {sub : Subscription}

theorem unread_reading (b : Broker) :
    Subscription.unread { sub with positions := some (sub.settled b) } b = sub.unread b := by
  rw [← Subscription.unreadAll_settled, ← Subscription.unreadAll_settled]
  rfl

/-- While the polls of a run are not more than the stalls, nothing is delivered; and then all is. -/
theorem runs_spec (hI : Willing I) (timeout : Nat) {retries : Nat} (halt : HaltScope)
    (hs₀ : I (Transcribed.intake s.toIntake)) (hopen : s.consumer.closed = false)
    (hs : s.consumer.subscription = some sub) (hsub : ∀ l ∈ sub.listener, ∃ r, l = .rewind r)
    (hmax : 0 < s.consumer.maxPollRecords) (hretries : 0 < retries) :
    ∃ (i : Intake (Transcribed D) P) (c : Consumer) (w' : Shared),
      Playback.runs timeout retries halt (s.consumer.stalledPolls / retries + 1) s w =
        ((.ok (List.replicate (s.consumer.stalledPolls / retries) ⟨0, 0, false⟩ ++
            [⟨(sub.unread w.broker).length ⌈/⌉ s.consumer.maxPollRecords,
              (sub.unread w.broker).length, false⟩]),
          { i with consumer := c }), w') ∧
      i.deserializer.given =
        s.deserializer.given ++ (sub.unread w.broker).map Record.toEntry := by
  generalize hq : s.consumer.stalledPolls / retries = q
  induction q generalizing s w sub with
  | zero =>
    have hstall : s.consumer.stalledPolls < retries := (Nat.div_eq_zero_iff_lt hretries).mp hq
    obtain ⟨i, positions, w', hrun, hgiven⟩ :=
      run_of_not_stalled hI timeout halt hs₀ hopen hs hsub hmax hstall (w := w)
    exact ⟨i, _, w', (Try.bind_of_ok hrun).trans rfl, hgiven⟩
  | succ q ih =>
    have hstall : retries ≤ s.consumer.stalledPolls := by
      refine Nat.le_of_not_lt fun hlt => ?_
      rw [Nat.div_eq_of_lt hlt] at hq
      exact absurd hq (Nat.succ_ne_zero q).symm
    have hless : (s.consumer.stalledPolls - retries) / retries = q := by
      rw [Nat.div_eq_sub_div hretries hstall] at hq
      exact Nat.succ.inj hq
    obtain ⟨n, ha⟩ := sub.assign_rewind hsub w
    have hrun := run_of_stalled timeout halt hopen hs ha hretries hstall
    let c := s.consumer.reading sub (sub.settled w.broker)
      (s.consumer.stalledPolls - retries) (s.consumer.polls + retries)
    obtain ⟨i, c', w', hruns, hgiven⟩ := ih (s := { s with consumer := c }) (w := w.withNotices n)
      hs₀ hopen rfl hsub hmax hless
    rw [Shared.broker_withNotices, unread_reading] at hruns hgiven
    refine ⟨i, c', w', ?_, hgiven⟩
    rw [Playback.runs, Try.bind_of_ok hrun, Try.bind_of_ok hruns]
    rfl

/-- If nothing is added to the log, a replay delivers what was unread, one partition after the
other, in as many batches as that takes; or nothing at all, if its polls are not more than the
stalls.  In that case the replays that follow deliver it, as soon as fewer stalls are left. -/
theorem delivers_unread (hI : Willing I) (timeout : Nat) {retries limit : Nat} (halt : HaltScope)
    (hs₀ : I (Transcribed.intake s.toIntake)) (hopen : s.consumer.closed = false)
    (hs : s.consumer.subscription = some sub) (hsub : ∀ l ∈ sub.listener, ∃ r, l = .rewind r)
    (hlimit : s.consumer.maxPollRecords = max 1 limit) (hretries : 1 ≤ retries) :
    (s.consumer.stalledPolls < retries →
      ∃ (i : Intake (Transcribed D) P) (positions : Slots Nat) (w' : Shared),
        Playback.run timeout retries halt s w =
          ((.ok ⟨(sub.unread w.broker).length ⌈/⌉ max 1 limit, (sub.unread w.broker).length,
              false⟩,
            { i with
              consumer := s.consumer.reading sub positions 0 (s.consumer.polls +
                if sub.unread w.broker = [] then retries
                else s.consumer.stalledPolls +
                  (sub.unread w.broker).length ⌈/⌉ max 1 limit + retries) }), w') ∧
        i.deserializer.given =
          s.deserializer.given ++ (sub.unread w.broker).map Record.toEntry) ∧
    (retries ≤ s.consumer.stalledPolls →
      ∃ n, Playback.run timeout retries halt s w =
        ((.ok ⟨0, 0, false⟩, { s with
          consumer := s.consumer.reading sub (sub.settled w.broker)
            (s.consumer.stalledPolls - retries) (s.consumer.polls + retries) }),
          w.withNotices n)) ∧
    ∃ (i : Intake (Transcribed D) P) (c : Consumer) (w' : Shared),
      Playback.runs timeout retries halt (s.consumer.stalledPolls / retries + 1) s w =
        ((.ok (List.replicate (s.consumer.stalledPolls / retries) ⟨0, 0, false⟩ ++
            [⟨(sub.unread w.broker).length ⌈/⌉ max 1 limit, (sub.unread w.broker).length, false⟩]),
          { i with consumer := c }), w') ∧
      i.deserializer.given =
        s.deserializer.given ++ (sub.unread w.broker).map Record.toEntry := by
  have hmax : 0 < s.consumer.maxPollRecords := by
    rw [hlimit]
    exact Nat.le_max_left 1 limit
  rw [← hlimit]
  refine ⟨fun hstall => ?_, fun hstall => ?_, ?_⟩
  · exact run_of_not_stalled hI timeout halt hs₀ hopen hs hsub hmax hstall
  · obtain ⟨n, ha⟩ := sub.assign_rewind hsub w
    exact ⟨n, run_of_stalled timeout halt hopen hs ha hretries hstall⟩
  · exact runs_spec hI timeout halt hs₀ hopen hs hsub hmax hretries

end Runs

/-- A loader that never asks to stop takes all records. -/
theorem willing_loader : Willing fun i : Intake Loader P => i.deserializer.stopAt = none := by
  intro key value i w hstop
  obtain ⟨counters, hdes⟩ := Loader.deserialize_apply hstop i.write ⟨0, 0, key, value⟩ w
  exact ⟨i, _, hdes, hstop, .refl _, Nat.le_refl _⟩

/-- A consumer that takes single records, once it has stalled three times. -/
def slow (listener : Option Listener) : Playback Consumer (Transcribed Loader) Broker.Producer where
  deserializer := { deserializer := { cache := 0, counter := 0 } }
  consumer :=
    { subscription := some { topic := "t", listener }, stalledPolls := 3, maxPollRecords := 1 }

/-- A topic with two records. -/
def twoRecords : Shared where
  broker := (({} : Broker).push "t" ⟨[97], [1]⟩).push "t" ⟨[98], [2]⟩

/-- Four polls outlast three stalls, of two polls only the second ones do.  The last record of two
is read back. -/
theorem delivers_unread_of_slow :
    (∃ (i : Intake (Transcribed Loader) Broker.Producer) (positions : Slots Nat) (w' : Shared),
      Playback.run 1 4 .batch (slow none) twoRecords =
        ((.ok ⟨2, 2, false⟩, { i with
          consumer := (slow none).consumer.reading { topic := "t", listener := none } positions
            0 9 }), w') ∧
      i.deserializer.given = [⟨[97], [1]⟩, ⟨[98], [2]⟩]) ∧
    ∃ (i : Intake (Transcribed Loader) Broker.Producer) (c : Consumer) (w' : Shared),
      Playback.runs 1 2 .batch 2 (slow (some (.rewind ⟨1⟩))) twoRecords =
        ((.ok [⟨0, 0, false⟩, ⟨1, 1, false⟩], { i with consumer := c }), w') ∧
      i.deserializer.given = [⟨[98], [2]⟩] := by
  have hall : Subscription.unread { topic := "t", listener := none } twoRecords.broker =
      [⟨0, 0, [97], [1]⟩, ⟨0, 1, [98], [2]⟩] := by decide +kernel
  have hlast : Subscription.unread { topic := "t", listener := some (.rewind ⟨1⟩) }
      twoRecords.broker = [⟨0, 1, [98], [2]⟩] := by decide +kernel
  have hlimit (listener : Option Listener) :
      (slow listener).consumer.maxPollRecords = max 1 1 := rfl
  have htwo : 1 ≤ 2 := by decide
  have hfour : 1 ≤ 4 := by decide
  constructor
  · obtain ⟨hrun, -, -⟩ := delivers_unread willing_loader 1 .batch rfl rfl rfl nofun (hlimit none)
      hfour (s := slow none) (w := twoRecords)
    rw [hall] at hrun
    exact hrun (by decide)
  · obtain ⟨-, -, hruns⟩ := delivers_unread willing_loader 1 .batch rfl rfl rfl
      (Broker.rewinding_rewinds 1) (hlimit _) htwo (s := slow (some (.rewind ⟨1⟩)))
      (w := twoRecords)
    rw [hlast] at hruns
    exact hruns

end Replay

end PositionLog
