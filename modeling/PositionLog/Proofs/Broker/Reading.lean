import PositionLog.Proofs.Broker.Unread
import Mathlib.Data.List.Infix

/-!
# What was read

What was read of a topic is described partition by partition: it is a stretch of the partition, from
its start to the position reached, each record once and in order.  This stays so while the log
grows, and a batch from the front of what is unread goes on where the stretch ends.
-/

namespace PositionLog.Broker

/-- These records are what was read of each partition, from its start on. -/
structure ReadFrom (b : Broker) (topic : String) (start : Nat → Nat) (rs : List Record) :
    Prop where
  partition : ∀ r ∈ rs, ∃ p < b.partitions, r.partition = p
  inOrder : ∀ p < b.partitions, rs.filter (Record.isIn p) <+: (b.records topic p).drop (start p)

/-- These records are all of each partition, from its start on. -/
structure ReadAll (b : Broker) (topic : String) (start : Nat → Nat) (rs : List Record) :
    Prop where
  partition : ∀ r ∈ rs, ∃ p < b.partitions, r.partition = p
  inOrder : ∀ p < b.partitions, rs.filter (Record.isIn p) = (b.records topic p).drop (start p)

/-- What was read of each partition ends at these positions. -/
def ReadUpTo (b : Broker) (start : Nat → Nat) (rs : List Record) (positions : Slots Nat) : Prop :=
  ∀ p < b.partitions, positions.getD p 0 = start p + (rs.filter (Record.isIn p)).length

section ReadFrom

variable {b b' : Broker} {topic : String} {start : Nat → Nat} {rs : List Record}
  {positions positions' : Slots Nat}

theorem readFrom_nil (b : Broker) (topic : String) (start : Nat → Nat) :
    b.ReadFrom topic start [] :=
  ⟨fun _ hr => absurd hr List.not_mem_nil, fun _ _ => List.nil_prefix⟩

theorem ReadFrom.of_append {rs' : List Record} (h : b.ReadFrom topic start (rs ++ rs')) :
    b.ReadFrom topic start rs := by
  refine ⟨fun r hr => h.partition r (List.mem_append_left rs' hr), fun p hp => ?_⟩
  have hpre := h.inOrder p hp
  rw [List.filter_append] at hpre
  exact (List.prefix_append _ _).trans hpre

/-- What was read stays where it is while the log grows. -/
theorem ReadFrom.extends (h : b.ReadFrom topic start rs) (hext : b.Extends b' topic) :
    b'.ReadFrom topic start rs := by
  constructor
  · rw [hext.partitions]
    exact h.partition
  · rw [hext.partitions]
    intro p hp
    exact (h.inOrder p hp).trans (List.IsPrefix.drop (hext.records p) (start p))

theorem ReadUpTo.extends (h : b.ReadUpTo start rs positions) (hext : b.Extends b' topic) :
    b'.ReadUpTo start rs positions := by
  intro p hp
  exact h p (hext.partitions ▸ hp)

/-- What was read of a partition, and then what is unread of it. -/
theorem ReadFrom.append_unreadOf (h : b.ReadFrom topic start rs)
    (hup : b.ReadUpTo start rs positions) {p : Nat} (hp : p < b.partitions) :
    rs.filter (Record.isIn p) ++ b.unreadOf topic positions p =
      (b.records topic p).drop (start p) := by
  obtain ⟨rest, hrest⟩ := h.inOrder p hp
  rw [unreadOf, hup p hp, ← List.drop_drop, ← hrest, List.drop_left]

/-- A batch from the front of what is unread is read next. -/
theorem ReadFrom.append_batch (h : b.ReadFrom topic start rs)
    (hup : b.ReadUpTo start rs positions) (limit : Nat) :
    b.ReadFrom topic start (rs ++ (b.unreadAll topic positions).take limit) := by
  constructor
  · intro r hr
    rcases List.mem_append.mp hr with hr | hr
    · exact h.partition r hr
    · obtain ⟨p, hp, hr⟩ := List.mem_flatMap.mp (List.mem_of_mem_take hr)
      exact ⟨p, List.mem_range.mp hp, partition_of_mem_unreadOf hr⟩
  · intro p hp
    have htake := ((List.take_prefix limit (b.unreadAll topic positions)).filter (Record.isIn p))
    rw [filter_unreadAll b topic positions hp] at htake
    rw [List.filter_append, ← h.append_unreadOf hup hp]
    exact (List.prefix_append_right_inj _).mpr htake

theorem ReadUpTo.append_batch (hup : b.ReadUpTo start rs positions) {batch : List Record}
    (hmoved : Moved positions batch positions') : b.ReadUpTo start (rs ++ batch) positions' := by
  intro p hp
  rw [hmoved p, hup p hp, List.filter_append, List.length_append, Nat.add_assoc]

/-- When nothing is unread, each partition was read from its start to its end. -/
theorem ReadFrom.readAll (h : b.ReadFrom topic start rs) (hup : b.ReadUpTo start rs positions)
    (hnil : b.unreadAll topic positions = []) : b.ReadAll topic start rs := by
  refine ⟨h.partition, fun p hp => ?_⟩
  have hnone : b.unreadOf topic positions p = [] :=
    List.flatMap_eq_nil_iff.mp hnil p (List.mem_range.mpr hp)
  rw [← h.append_unreadOf hup hp, hnone, List.append_nil]

/-- If each extends the other, the same is unread. -/
theorem Extends.unreadAll_eq (h : b.Extends b' topic) (h' : b'.Extends b topic)
    (positions : Slots Nat) : b'.unreadAll topic positions = b.unreadAll topic positions := by
  have hrecords (p : Nat) : b'.records topic p = b.records topic p :=
    (h'.records p).eq_of_length_le (h.records p).length_le
  unfold unreadAll
  rw [h.partitions]
  exact congrArg List.flatten (List.map_congr_left fun p _ => congrArg (List.drop _) (hrecords p))

/-- As much as the log grows, so much more is unread. -/
theorem Extends.unread_le (hext : b.Extends b' topic) (positions : Slots Nat) :
    b'.unread topic positions + b.recordCount topic ≤
      b.unread topic positions + b'.recordCount topic := by
  simp only [unread_eq_sum, recordCount_eq_sum]
  rw [hext.partitions, ← List.sum_map_add, ← List.sum_map_add]
  apply List.sum_le_sum
  intro p _
  have hle := hext.size_le p
  omega

end ReadFrom

end PositionLog.Broker
