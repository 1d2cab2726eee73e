import PositionLog.Proofs.Broker.Unread
import PositionLog.Proofs.Shared
import Mathlib.Data.List.Induction

/-!
# Where a consumer starts

When the partitions are assigned, the listener may seek.  The cursor goes by the number of a
partition alone, and refuses an offset that is negative and a number that no partition has.  So a
partition is read from where the last seek accepted for its number went, and from its start if there
was none.  A listener that rewinds seeks once in each partition that has so many records.
-/

namespace PositionLog

/-! ## What is sought -/

/-- The seek that a command asks for, if it is one. -/
def CursorCommand.seek? : CursorCommand → Option (TopicPartition × Int)
  | endOffset _ => none
  | seek p offset => some (p, offset)

/-- The seek to the last records of a partition, if it has so many. -/
def Rewind.seek? (r : Rewind) (b : Broker) (p : TopicPartition) : Option (TopicPartition × Int) :=
  match b.endOffset p with
  | .error _ => none
  | .ok n => (r.target n).map fun start : Nat => (p, (start : Int))

/-- The seeks that a listener asks for, in order, when it is given the partitions of a topic. -/
def Listener.seeks (b : Broker) (topic : String) : Listener → List (TopicPartition × Int)
  | rewind r => (b.partitionsOf topic).filterMap (r.seek? b)
  | probe commands => commands.filterMap CursorCommand.seek?

theorem Rewind.maxOffset_eq : maxOffset = 2 ^ 63 - 1 := rfl

/-- How many records of each partition are read back at most. -/
def Rewind.reach (r : Rewind) : Nat := min r.depth Rewind.maxOffset

/-- What is to be read back is taken off the end. -/
theorem Rewind.target_eq (r : Rewind) (end_ : Int) :
    r.target end_ = if (r.reach : Int) ≤ end_ then some (end_ - r.reach).toNat else none := by
  have hreach : end_ - (min r.depth maxOffset : Nat) = end_ - (r.reach : Int) := rfl
  simp only [target, hreach, Int.sub_nonneg]

theorem Rewind.target_natCast (r : Rewind) (n : Nat) :
    r.target n = if r.reach ≤ n then some (n - r.reach) else none := by
  rw [target_eq, Int.toNat_sub]
  simp only [Int.ofNat_le]

namespace Broker

/-- The cursor accepts a seek, of whatever topic the partition is. -/
def Allows (b : Broker) (x : TopicPartition × Int) : Prop :=
  0 ≤ x.2 ∧ 0 ≤ x.1.partition ∧ x.1.partition < b.partitions

instance (b : Broker) (x : TopicPartition × Int) : Decidable (b.Allows x) :=
  inferInstanceAs (Decidable (_ ∧ _ ∧ _))

/-- What the cursor answers to a seek. -/
def answerSeek (b : Broker) (p : TopicPartition) (offset : Int) : Except BrokerError Unit :=
  if offset < 0 then
    .error (.invalidState s!"cannot seek {p.render} to negative offset {offset}")
  else if 0 ≤ p.partition ∧ p.partition < b.partitions then .ok ()
  else .error (.invalidState (p.render ++ " is not assigned"))

theorem answerSeek_eq_ok_iff {b : Broker} {p : TopicPartition} {offset : Int} :
    b.answerSeek p offset = .ok () ↔ b.Allows (p, offset) := by
  rw [answerSeek]
  split
  · rename_i hneg
    exact iff_of_false nofun fun h => absurd h.1 (Int.not_le.mpr hneg)
  · rename_i hneg
    split
    · rename_i hin
      exact iff_of_true rfl ⟨Int.not_lt.mp hneg, hin⟩
    · rename_i hin
      exact iff_of_false nofun fun h => hin h.2

/-- The positions after a seek. -/
def seek (b : Broker) (positions : Slots Nat) (x : TopicPartition × Int) : Slots Nat :=
  if b.Allows x then positions.set x.1.partition.toNat x.2.toNat else positions

/-- Where the last seek accepted for a partition went. -/
def lastSeek? (b : Broker) (p : Nat) (seeks : List (TopicPartition × Int)) : Option Nat :=
  (seeks.filter fun x => b.Allows x ∧ x.1.partition = p).getLast?.map fun x => x.2.toNat

theorem lastSeek?_append_singleton (b : Broker) (p : Nat) (seeks : List (TopicPartition × Int))
    (x : TopicPartition × Int) :
    b.lastSeek? p (seeks ++ [x]) =
      if b.Allows x ∧ x.1.partition = p then some x.2.toNat else b.lastSeek? p seeks := by
  unfold lastSeek?
  rw [List.filter_append, List.filter_singleton]
  split
  · rename_i h
    rw [decide_eq_true h, cond_true, List.getLast?_concat]
    rfl
  · rename_i h
    rw [decide_eq_false h, cond_false, List.append_nil]

/-- Each partition is where the last seek accepted for it went. -/
theorem getD_foldl_seek (b : Broker) (seeks : List (TopicPartition × Int)) (positions : Slots Nat)
    (p : Nat) :
    (seeks.foldl b.seek positions).getD p 0 = (b.lastSeek? p seeks).getD (positions.getD p 0) := by
  -- From the end, because a later seek overrides an earlier one.
  induction seeks using List.reverseRecOn with
  | nil => rfl
  | append_singleton seeks x ih =>
    rw [List.foldl_append, List.foldl_cons, List.foldl_nil, seek, lastSeek?_append_singleton]
    by_cases ha : b.Allows x
    · have hpos : x.1.partition = p ↔ x.1.partition.toNat = p := by
        have := ha.2.1
        omega
      rw [if_pos ha, Slots.getD_set, ih]
      by_cases hp : x.1.partition.toNat = p
      · rw [if_pos hp, if_pos ⟨ha, hpos.mpr hp⟩, Option.getD_some]
      · rw [if_neg hp, if_neg fun h => hp (hpos.mp h.2)]
    · rw [if_neg ha, if_neg fun h => ha h.1, ih]

namespace Subscription

/-- The seeks that the listener of a subscription asks for. -/
def seeks (s : Subscription) (b : Broker) : List (TopicPartition × Int) :=
  match s.listener with
  | none => []
  | some l => l.seeks b s.topic

/-- Where each partition is read next, or will be once they are assigned. -/
def start (s : Subscription) (b : Broker) (p : Nat) : Nat :=
  match s.positions with
  | none => (b.lastSeek? p (s.seeks b)).getD 0
  | some positions => positions.getD p 0

/-- The positions that a subscription has, or will have once its partitions are assigned. -/
def settled (s : Subscription) (b : Broker) : Slots Nat :=
  s.positions.getD ((s.seeks b).foldl b.seek {})

theorem getD_settled (s : Subscription) (b : Broker) (p : Nat) :
    (s.settled b).getD p 0 = s.start b p := by
  unfold settled start
  cases s.positions with
  | none => rw [Option.getD_none, getD_foldl_seek, Slots.getD_empty]
  | some positions => rfl

/-- What is not read yet, or will not be once the partitions are assigned, one partition after the
other. -/
def unread (s : Subscription) (b : Broker) : List Record :=
  (List.range b.partitions).flatMap fun p => (b.records s.topic p).drop (s.start b p)

theorem unreadAll_settled (s : Subscription) (b : Broker) :
    b.unreadAll s.topic (s.settled b) = s.unread b := by
  unfold unreadAll unread
  congr 1
  funext p
  rw [unreadOf, getD_settled]

end Subscription

/-! ## What the cursor does -/

/-- What is seen of a command. -/
def seen (b : Broker) : CursorCommand → Observation
  | .endOffset p => .endAnswered ((b.endOffset p).map fun n : Nat => (n : Int))
  | .seek p offset => .seekAnswered (b.answerSeek p offset)

section Cursor

variable (w : Shared) (positions : Slots Nat)

/-- A seek moves the positions if the cursor accepts it, and only then. -/
theorem cursor_seek_apply (p : TopicPartition) (offset : Int) :
    cursor.seek p offset positions w =
      ((w.broker.answerSeek p offset, w.broker.seek positions (p, offset)), w) := by
  simp only [cursor, Act.ite_apply]
  rw [answerSeek]
  by_cases hneg : offset < 0
  · have hno : ¬ w.broker.Allows (p, offset) := fun h => absurd h.1 (Int.not_le.mpr hneg)
    rw [if_pos hneg, if_pos hneg, seek, if_neg hno]
    rfl
  · rw [if_neg hneg, if_neg hneg, Act.bind_apply, Act.getThe_apply]
    dsimp only
    rw [Act.ite_apply]
    by_cases hin : 0 ≤ p.partition ∧ p.partition < w.broker.partitions
    · have hyes : w.broker.Allows (p, offset) := ⟨Int.not_lt.mp hneg, hin⟩
      rw [if_pos hin, if_pos hin, seek, if_pos hyes]
      rfl
    · have hno : ¬ w.broker.Allows (p, offset) := fun h => hin h.2
      rw [if_neg hin, if_neg hin, seek, if_neg hno]
      rfl

theorem cursor_endOffset_apply (p : TopicPartition) :
    cursor.endOffset p positions w =
      (((w.broker.endOffset p).map fun n : Nat => (n : Int), positions), w) := rfl

/-- A partition is moved to its last records, if it has so many. -/
theorem move_apply (r : Rewind) (p : TopicPartition) :
    ∃ n, r.move cursor p positions w =
      (((), (r.seek? w.broker p).toList.foldl w.broker.seek positions), w.withNotices n) := by
  rw [Rewind.move, Act.bind_apply, cursor_endOffset_apply, Rewind.seek?]
  cases w.broker.endOffset p with
  | error cause => exact ⟨_, rfl⟩
  | ok n =>
    dsimp only [Except.map]
    cases r.target n with
    | none => exact ⟨_, rfl⟩
    | some start =>
      dsimp only
      rw [Act.bind_apply, Act.lift_apply, Shared.tell_eq, Act.bind_apply, cursor_seek_apply]
      cases (w.withNotices (w.notices.push (.seeking p n start))).broker.answerSeek p start with
      | error cause => exact ⟨_, rfl⟩
      | ok _ => exact ⟨_, rfl⟩

/-- All partitions are moved, one after the other. -/
theorem forM_move_apply (r : Rewind) (ps : List TopicPartition) :
    ∃ n, ps.forM (r.move cursor) positions w =
      (((), (ps.filterMap (r.seek? w.broker)).foldl w.broker.seek positions), w.withNotices n) := by
  induction ps generalizing w positions with
  | nil => exact ⟨w.notices, rfl⟩
  | cons p ps ih =>
    obtain ⟨n, hmove⟩ := move_apply w positions r p
    obtain ⟨m, hrest⟩ :=
      ih (w.withNotices n) ((r.seek? w.broker p).toList.foldl w.broker.seek positions)
    have hcons : (p :: ps).filterMap (r.seek? w.broker) =
        (r.seek? w.broker p).toList ++ ps.filterMap (r.seek? w.broker) := by
      rw [List.filterMap_cons]
      cases r.seek? w.broker p <;> rfl
    refine ⟨m, (Act.bind_of_eq hmove).trans (hrest.trans ?_)⟩
    rw [hcons, List.foldl_append]
    rfl

/-- A command changes nothing but the positions and what is seen. -/
theorem run_apply (c : CursorCommand) :
    c.run cursor positions w =
      (((), c.seek?.toList.foldl w.broker.seek positions),
        { w with observations := w.observations.push (w.broker.seen c) }) := by
  cases c with
  | endOffset p => rfl
  | seek p offset => exact Act.bind_of_eq (cursor_seek_apply w positions p offset)

theorem forM_run_apply (cs : List CursorCommand) :
    ∃ w', cs.forM (·.run cursor) positions w =
        (((), (cs.filterMap CursorCommand.seek?).foldl w.broker.seek positions), w') ∧
      w'.broker = w.broker ∧
      w'.observations.toList = w.observations.toList ++ cs.map w.broker.seen := by
  induction cs generalizing w positions with
  | nil => exact ⟨w, rfl, rfl, (List.append_nil _).symm⟩
  | cons c cs ih =>
    obtain ⟨w', hrest, hbroker, hseen⟩ :=
      ih { w with observations := w.observations.push (w.broker.seen c) }
        (c.seek?.toList.foldl w.broker.seek positions)
    have hcons : (c :: cs).filterMap CursorCommand.seek? =
        c.seek?.toList ++ cs.filterMap CursorCommand.seek? := by
      rw [List.filterMap_cons]
      cases c.seek? <;> rfl
    refine ⟨w', (Act.bind_of_eq (run_apply w positions c)).trans (hrest.trans ?_), hbroker, ?_⟩
    · rw [hcons, List.foldl_append]
    · rw [hseen, Log.toList_push, List.append_assoc, List.map_cons]
      rfl

end Cursor

/-! ## The assignment -/

namespace Subscription

/-- The assignment leaves the positions where the listener took them, and the broker as it was. -/
theorem assign_apply (s : Subscription) (w : Shared) :
    ∃ w', s.assign w = (s.settled w.broker, w') ∧ w'.broker = w.broker := by
  obtain ⟨topic, listener, positions⟩ := s
  cases positions with
  | some positions => exact ⟨w, rfl, rfl⟩
  | none =>
    cases listener with
    | none => exact ⟨w, rfl, rfl⟩
    | some l =>
      cases l with
      | rewind r =>
        obtain ⟨n, hmove⟩ := forM_move_apply w {} r (w.broker.partitionsOf topic)
        refine ⟨w.withNotices n, ?_, rfl⟩
        exact congrArg (fun x : (Unit × Slots Nat) × Shared => (x.1.2, x.2)) hmove
      | probe commands =>
        obtain ⟨w', hrun, hbroker, -⟩ := forM_run_apply
          (Shared.observe (.assigned (w.broker.partitionsOf topic)) w).2 {} commands
        refine ⟨w', ?_, hbroker⟩
        exact congrArg (fun x : (Unit × Slots Nat) × Shared => (x.1.2, x.2)) hrun

/-- A listener that rewinds only tells what it does. -/
theorem assign_rewind (s : Subscription) (h : ∀ l ∈ s.listener, ∃ r, l = .rewind r) (w : Shared) :
    ∃ n, s.assign w = (s.settled w.broker, w.withNotices n) := by
  obtain ⟨topic, listener, positions⟩ := s
  cases positions with
  | some positions => exact ⟨w.notices, rfl⟩
  | none =>
    cases listener with
    | none => exact ⟨w.notices, rfl⟩
    | some l =>
      obtain ⟨r, rfl⟩ := h l rfl
      obtain ⟨n, hmove⟩ := forM_move_apply w {} r (w.broker.partitionsOf topic)
      exact ⟨n, congrArg (fun x : (Unit × Slots Nat) × Shared => (x.1.2, x.2)) hmove⟩

end Subscription

/-! ## Rewinding -/

/-- The listener of a subscription that reads back to this depth, or from the start if it is `0`. -/
def rewinding (depth : Nat) : Option Listener := if 1 ≤ depth then some (.rewind ⟨depth⟩) else none

/-- Where a partition with so many records is read from. -/
def startAt (depth size : Nat) : Nat :=
  if 1 ≤ depth then size - Rewind.reach ⟨depth⟩ else 0

theorem startAt_le (depth size : Nat) : startAt depth size ≤ size := by
  unfold startAt
  split <;> omega

/-- Where each partition of a topic is read from. -/
def startOf (b : Broker) (topic : String) (depth p : Nat) : Nat :=
  startAt depth (b.entries topic p).size

theorem filterMap_ite_eq {α : Type} {ps : List Nat} (hps : ps.Nodup) (p : Nat) (x : Option α) :
    ps.filterMap (fun q => if q = p then x else none) = if p ∈ ps then x.toList else [] := by
  induction ps with
  | nil => rfl
  | cons q ps ih =>
    obtain ⟨hq, hps⟩ := List.nodup_cons.mp hps
    rw [List.filterMap_cons, ih hps]
    by_cases he : q = p
    · subst he
      rw [if_pos rfl, if_neg hq, if_pos List.mem_cons_self]
      cases x <;> rfl
    · rw [if_neg he]
      simp only [List.mem_cons, Ne.symm he, false_or]

section Rewind

variable {b : Broker} {p : Nat} (hp : p < b.partitions) (r : Rewind) (topic : String)
include hp

/-- A partition is taken back by as many records as are to be read, if it has so many. -/
theorem seek?_partition :
    r.seek? b ⟨topic, p⟩ =
      if r.reach ≤ (b.entries topic p).size then
        some (⟨topic, p⟩, (((b.entries topic p).size - r.reach : Nat) : Int))
      else none := by
  rw [Rewind.seek?, b.endOffset_natCast topic hp]
  dsimp only
  rw [Rewind.target_natCast]
  split <;> rfl

/-- Each partition is rewound once, by a seek that is accepted. -/
theorem lastSeek?_rewind :
    b.lastSeek? p ((Listener.rewind r).seeks b topic) =
      if r.reach ≤ (b.entries topic p).size then some ((b.entries topic p).size - r.reach)
      else none := by
  have hown (q : Nat) (hq : q ∈ List.range b.partitions) :
      (r.seek? b ⟨topic, q⟩).filter (fun x => b.Allows x ∧ x.1.partition = p) =
        if q = p then r.seek? b ⟨topic, p⟩ else none := by
    rw [seek?_partition (List.mem_range.mp hq), seek?_partition hp]
    by_cases he : q = p
    · subst he
      rw [if_pos rfl]
      split
      · have hyes : b.Allows (⟨topic, q⟩, (((b.entries topic q).size - r.reach : Nat) : Int)) :=
          ⟨Int.natCast_nonneg _, Int.natCast_nonneg q, Int.ofNat_lt.mpr hp⟩
        rw [Option.filter_some, if_pos (decide_eq_true ⟨hyes, rfl⟩)]
      · rfl
    · rw [if_neg he]
      split
      · rw [Option.filter_some, if_neg]
        intro h
        exact he (Int.ofNat.inj (of_decide_eq_true h).2)
      · rfl
  have hfilter : ((Listener.rewind r).seeks b topic).filter
      (fun x => b.Allows x ∧ x.1.partition = p) = (r.seek? b ⟨topic, p⟩).toList := by
    rw [Listener.seeks, partitionsOf, List.filterMap_map, List.filter_filterMap]
    refine (List.filterMap_congr hown).trans ?_
    rw [filterMap_ite_eq List.nodup_range, if_pos (List.mem_range.mpr hp)]
  rw [lastSeek?, hfilter, seek?_partition hp]
  split <;> rfl

/-- A partition that has fewer records than are to be read is read from its start. -/
theorem start_rewind :
    Subscription.start { topic, listener := some (.rewind r) } b p =
      (b.entries topic p).size - r.reach := by
  change (b.lastSeek? p ((Listener.rewind r).seeks b topic)).getD 0 = _
  rw [lastSeek?_rewind hp]
  split
  · rfl
  · rw [Option.getD_none]
    omega

end Rewind

theorem rewinding_rewinds (depth : Nat) : ∀ l ∈ rewinding depth, ∃ r, l = .rewind r := by
  unfold rewinding
  split
  · rintro l ⟨⟩
    exact ⟨_, rfl⟩
  · exact nofun

theorem start_rewinding {b : Broker} {p : Nat} (hp : p < b.partitions) (topic : String)
    (depth : Nat) :
    Subscription.start { topic, listener := rewinding depth } b p = b.startOf topic depth p := by
  unfold rewinding startOf startAt
  split
  · exact start_rewind hp ⟨depth⟩ topic
  · rfl

end Broker

end PositionLog
