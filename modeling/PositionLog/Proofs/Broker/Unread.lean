import PositionLog.Broker.Consumer
import PositionLog.Proofs.Broker.Append
import Mathlib.Algebra.Order.BigOperators.Group.List

/-!
# What a poll takes

Consider the records that are unread in each partition, one partition after the other.  A poll takes
from the front of these as many as it may, leaves the others unread, and moves each position by the
number of records taken from its partition.
-/

namespace PositionLog.Broker

/-- The records of a partition from its position on. -/
def unreadOf (b : Broker) (topic : String) (positions : Slots Nat) (p : Nat) : List Record :=
  (b.records topic p).drop (positions.getD p 0)

/-- All unread records, in the order in which they are read. -/
def unreadAll (b : Broker) (topic : String) (positions : Slots Nat) : List Record :=
  (List.range b.partitions).flatMap (b.unreadOf topic positions)

/-- Each position was moved by the number of records taken from its partition. -/
def Moved (positions : Slots Nat) (batch : List Record) (positions' : Slots Nat) : Prop :=
  ∀ p, positions'.getD p 0 = positions.getD p 0 + (batch.filter (Record.isIn p)).length

theorem read_eq (b : Broker) (topic : String) (p start limit : Nat) :
    b.read topic p start limit = ((b.records topic p).drop start).take limit := by
  have hz (l : List Entry) : (l.drop start).zipIdx start = l.zipIdx.drop start := by
    apply List.ext_getElem?
    intro i
    rw [List.getElem?_zipIdx, List.getElem?_drop, List.getElem?_drop, List.getElem?_zipIdx]
    simp
  have ht (l : List Entry) (k : Nat) : (l.take limit).zipIdx k = (l.zipIdx k).take limit := by
    apply List.ext_getElem?
    intro i
    rw [List.getElem?_zipIdx, List.getElem?_take, List.getElem?_take, List.getElem?_zipIdx]
    split <;> rfl
  rw [Store.read, Log.slice_eq, ht, hz, records, List.map_take, List.map_drop]
  rfl

theorem partition_of_mem_unreadOf {b : Broker} {topic : String} {positions : Slots Nat} {p : Nat}
    {r : Record} (h : r ∈ b.unreadOf topic positions p) : r.partition = p :=
  partition_of_mem_records (List.mem_of_mem_drop h)

theorem unread_eq_sum (b : Broker) (topic : String) (positions : Slots Nat) :
    b.unread topic positions = ((List.range b.partitions).map fun p =>
      (b.entries topic p).size - positions.getD p 0).sum := rfl

theorem unread_eq (b : Broker) (topic : String) (positions : Slots Nat) :
    b.unread topic positions = (b.unreadAll topic positions).length := by
  rw [unread_eq_sum, unreadAll, List.length_flatMap]
  refine congrArg List.sum (List.map_congr_left fun p _ => ?_)
  rw [unreadOf, List.length_drop, length_records]

theorem filter_flatMap_unreadOf (b : Broker) (topic : String) (positions : Slots Nat)
    {ps : List Nat} (hps : ps.Nodup) (q : Nat) :
    (ps.flatMap (b.unreadOf topic positions)).filter (Record.isIn q) =
      if q ∈ ps then b.unreadOf topic positions q else [] := by
  induction ps with
  | nil => rfl
  | cons p ps ih =>
    obtain ⟨hp, hps⟩ := List.nodup_cons.mp hps
    rw [List.flatMap_cons, List.filter_append, ih hps,
      filter_isIn_of_partition fun r => partition_of_mem_unreadOf]
    by_cases hq : p = q
    · subst hq
      rw [if_pos rfl, if_neg hp, if_pos List.mem_cons_self, List.append_nil]
    · rw [if_neg hq, List.nil_append]
      simp only [List.mem_cons, Ne.symm hq, false_or]

/-- Of each partition, its own unread records are read. -/
theorem filter_unreadAll (b : Broker) (topic : String) (positions : Slots Nat) {p : Nat}
    (hp : p < b.partitions) :
    (b.unreadAll topic positions).filter (Record.isIn p) = b.unreadOf topic positions p := by
  rw [unreadAll, filter_flatMap_unreadOf b topic positions List.nodup_range,
    if_pos (List.mem_range.mpr hp)]

/-! ## Taking records -/

/-- Moves the position of one partition on. -/
def advance (positions : Slots Nat) (p n : Nat) : Slots Nat :=
  if n = 0 then positions else positions.set p (positions.getD p 0 + n)

theorem getD_advance (positions : Slots Nat) (p n q : Nat) :
    (advance positions p n).getD q 0 = positions.getD q 0 + if p = q then n else 0 := by
  unfold advance
  split
  · rename_i h
    rw [h, ite_self, Nat.add_zero]
  · rw [Slots.getD_set]
    by_cases hq : p = q
    · rw [if_pos hq, if_pos hq, hq]
    · rw [if_neg hq, if_neg hq, Nat.add_zero]

section TakeFrom

variable (b : Broker) (topic : String)

theorem unreadOf_advance (positions : Slots Nat) (p n q : Nat) :
    b.unreadOf topic (advance positions p n) q =
      (b.unreadOf topic positions q).drop (if p = q then n else 0) := by
  rw [unreadOf, getD_advance, unreadOf, List.drop_drop]

theorem flatMap_unreadOf_advance (positions : Slots Nat) {p : Nat} {ps : List Nat} (h : p ∉ ps)
    (n : Nat) : ps.flatMap (b.unreadOf topic (advance positions p n)) =
      ps.flatMap (b.unreadOf topic positions) := by
  refine congrArg List.flatten (List.map_congr_left fun q hq => ?_)
  have hne : p ≠ q := by
    rintro rfl
    exact h hq
  rw [unreadOf_advance, if_neg hne, List.drop_zero]

theorem takeFrom_zero (ps : List Nat) (taken : List Record) (positions : Slots Nat) :
    b.takeFrom topic ps 0 taken positions = (taken.reverse, positions) := by
  cases ps <;> rfl

/-- One partition after another gives what it has, as long as there is room. -/
theorem takeFrom_cons (p : Nat) (ps : List Nat) (room : Nat) (taken : List Record)
    (positions : Slots Nat) :
    b.takeFrom topic (p :: ps) room taken positions =
      b.takeFrom topic ps (room - (b.unreadOf topic positions p).length)
        (((b.unreadOf topic positions p).take room).reverse ++ taken)
        (advance positions p (min room (b.unreadOf topic positions p).length)) := by
  have hr : b.read topic p (positions.getD p 0) room = (b.unreadOf topic positions p).take room :=
    read_eq b topic p _ room
  generalize b.unreadOf topic positions p = unread at hr ⊢
  rw [takeFrom]
  by_cases hroom : room = 0
  · subst hroom
    simp [takeFrom_zero, advance]
  · simp only [if_neg hroom, hr]
    split
    · rename_i h
      have hnil : unread = [] := (List.take_eq_nil_iff.mp h).resolve_left hroom
      simp [hnil, advance]
    · rename_i h
      have hlen : min room unread.length ≠ 0 := by
        rw [← List.length_take]
        exact fun hl => h (List.length_eq_zero_iff.mp hl)
      rw [advance, if_neg hlen, List.length_take]
      congr 1
      omega

/-- The records come from the front of what is unread in the partitions `ps`, and the others stay
unread. -/
theorem takeFrom_spec {ps : List Nat} (hps : ps.Nodup) (room : Nat) (taken : List Record)
    (positions : Slots Nat) :
    ∃ positions', b.takeFrom topic ps room taken positions =
        (taken.reverse ++ (ps.flatMap (b.unreadOf topic positions)).take room, positions') ∧
      Moved positions ((ps.flatMap (b.unreadOf topic positions)).take room) positions' ∧
      ps.flatMap (b.unreadOf topic positions') =
        (ps.flatMap (b.unreadOf topic positions)).drop room := by
  induction ps generalizing room taken positions with
  | nil => exact ⟨positions, by simp [takeFrom], by simp [Moved], by simp⟩
  | cons p ps ih =>
    obtain ⟨hp, hps⟩ := List.nodup_cons.mp hps
    have hmem (r : Record) : r ∈ b.unreadOf topic positions p → r.partition = p :=
      partition_of_mem_unreadOf
    have hnone := (filter_flatMap_unreadOf b topic positions hps p).trans (if_neg hp)
    have hown (positions' : Slots Nat) (n : Nat)
        (h : positions'.getD p 0 = positions.getD p 0 + n) :
        b.unreadOf topic positions' p = (b.unreadOf topic positions p).drop n := by
      rw [unreadOf, h, unreadOf, List.drop_drop]
    rw [takeFrom_cons, List.flatMap_cons]
    generalize b.unreadOf topic positions p = unread at hmem hown ⊢
    obtain ⟨positions', heq, hmoved, hrest⟩ := ih hps (room - unread.length)
      ((unread.take room).reverse ++ taken) (advance positions p (min room unread.length))
    rw [flatMap_unreadOf_advance b topic positions hp] at heq hmoved hrest
    refine ⟨positions', ?_, ?_, ?_⟩
    · rw [heq, List.take_append, List.reverse_append, List.reverse_reverse, List.append_assoc]
    · intro q
      rw [hmoved q, getD_advance, List.take_append, List.filter_append, List.length_append,
        filter_isIn_of_partition fun r hr => hmem r (List.mem_of_mem_take hr), Nat.add_assoc]
      split
      · rw [List.length_take]
      · rfl
    · have hlater := List.eq_nil_of_sublist_nil
        (hnone ▸ (List.take_sublist (room - unread.length) _).filter (Record.isIn p))
      have hp' := hmoved p
      rw [hlater, getD_advance, if_pos rfl, List.length_nil, Nat.add_zero] at hp'
      rw [List.flatMap_cons, hrest, hown positions' _ hp', List.drop_append]
      rcases Nat.le_total room unread.length with h | h
      · rw [Nat.min_eq_left h]
      · rw [Nat.min_eq_right h, List.drop_length, List.drop_eq_nil_of_le h]

end TakeFrom

/-- A poll takes from the front of what is unread. -/
theorem takeUnread_spec (b : Broker) (topic : String) (limit : Nat) (positions : Slots Nat) :
    ∃ positions', b.takeUnread topic limit positions =
        ((b.unreadAll topic positions).take limit, positions') ∧
      Moved positions ((b.unreadAll topic positions).take limit) positions' ∧
      b.unreadAll topic positions' = (b.unreadAll topic positions).drop limit :=
  b.takeFrom_spec topic List.nodup_range limit [] positions

/-- At most all records of a topic are unread. -/
theorem unread_le_recordCount (b : Broker) (topic : String) (positions : Slots Nat) :
    b.unread topic positions ≤ b.recordCount topic := by
  rw [unread_eq_sum, recordCount_eq_sum]
  exact List.sum_le_sum fun _ _ => Nat.sub_le _ _

end PositionLog.Broker
