import PositionLog.Log
import PositionLog.Partitioner
import PositionLog.Record
import PositionLog.Table

/-! # What a broker stores

The log of a topic is a sequence of partitions, which are as many as the broker has for each of its
topics. A partition is found by its number, and whatever looks for one that is not there has no
result.
-/

namespace PositionLog

/-- A record as it is kept. Its place is where it stands. -/
structure Entry where
  key : Bytes
  value : Bytes
deriving DecidableEq, Repr, Inhabited

/-- The log of one topic: its partitions. -/
abbrev TopicLog := Log (Log Entry)

/-- Adds an entry at the end of a partition, and tells its offset. -/
def TopicLog.add? (l : TopicLog) (p : Nat) (e : Entry) : Option (Nat × TopicLog) := do
  let records ← l.get? p
  let l ← l.set? p (records.push e)
  return (records.size, l)

structure Store where
  /-- The number of partitions of every topic. -/
  partitions : Nat := 1
  /-- The topics that have been written to. -/
  logs : Table TopicLog := {}
deriving Repr

namespace Store

/-- The log of a topic. One that has not been written to has all partitions, without entries. -/
def log (s : Store) (topic : String) : TopicLog :=
  match s.logs.get? topic with
  | none => .replicate s.partitions {}
  | some l => l

/-- Adds an entry at the end of the partition of its key, and tells its place. -/
def append? (s : Store) (topic : String) (e : Entry) : Option (Metadata × Store) := do
  let p ← Partitioner.index? e.key s.partitions
  let (offset, l) ← TopicLog.add? (s.log topic) p e
  return (⟨topic, some p, some offset⟩, { s with logs := s.logs.insert topic l })

/-- The offset that the next entry of a partition will get. -/
def endOffset? (s : Store) (tp : TopicPartition) : Option (Except BrokerError Nat) :=
  if tp.partition < 0 ∨ s.partitions ≤ tp.partition then
    some (.error (.invalidState ("unknown partition " ++ tp.render)))
  else
    match s.logs.get? tp.topic with
    | none => some (.ok 0)
    | some l => (l.get? tp.partition.toNat).map fun records => .ok records.size

/-- The number of entries of a topic. -/
def recordCount (s : Store) (topic : String) : Nat :=
  match s.logs.get? topic with
  | none => 0
  | some l => (l.toList.map Log.size).foldr (· + ·) 0

/-- The entries of a partition, by offset. There are none where there is no such partition. -/
def entries (s : Store) (topic : String) (p : Nat) : Log Entry :=
  ((s.logs.get? topic).bind (·.get? p)).getD {}

/-- At most `limit` records of a partition, from an offset on. -/
def read (s : Store) (topic : String) (p start limit : Nat) : List Record :=
  ((s.entries topic p).slice start limit).zipIdx start |>.map
    fun (e, offset) => ⟨p, offset, e.key, e.value⟩

/-- There are partitions, and every topic has all of them. -/
structure Sized (s : Store) : Prop where
  pos : 0 < s.partitions
  size_eq : ∀ topic l, s.logs.get? topic = some l → l.size = s.partitions

namespace Sized

variable {s s' : Store}

theorem size_log (h : s.Sized) (topic : String) : (s.log topic).size = s.partitions := by
  rw [log]
  cases hl : s.logs.get? topic with
  | none => exact Log.size_replicate s.partitions _
  | some l => exact h.size_eq topic l hl

theorem get?_log (h : s.Sized) (topic : String) {p : Nat} (hp : p < s.partitions) :
    (s.log topic).get? p = some (s.entries topic p) := by
  rw [log, entries]
  cases hl : s.logs.get? topic with
  | none => exact (Log.get?_replicate s.partitions _ p).trans (if_pos hp)
  | some l =>
    have hsome : (l.get? p).isSome := Log.isSome_get?.mpr (h.size_eq topic l hl ▸ hp)
    rw [Option.bind_some]
    cases hr : l.get? p with
    | none =>
      rw [hr] at hsome
      cases hsome
    | some records => rfl

/-- A partition that is there takes an entry at its end. -/
theorem add?_log (h : s.Sized) (topic : String) {p : Nat} (hp : p < s.partitions) (e : Entry) :
    ∃ l, (s.log topic).set? p ((s.entries topic p).push e) = some l ∧
      TopicLog.add? (s.log topic) p e = some ((s.entries topic p).size, l) := by
  have hset : ((s.log topic).set? p ((s.entries topic p).push e)).isSome :=
    Log.isSome_set?.mpr (h.size_log topic ▸ hp)
  obtain ⟨l, hl⟩ := Option.isSome_iff_exists.mp hset
  refine ⟨l, hl, ?_⟩
  rw [TopicLog.add?, h.get?_log topic hp, Option.bind_eq_bind, Option.bind_some, hl]
  rfl

/-- Every entry finds its partition. -/
theorem append?_eq (h : s.Sized) (topic : String) (e : Entry) :
    ∃ l, (s.log topic).set? (Partitioner.index e.key s.partitions)
        ((s.entries topic (Partitioner.index e.key s.partitions)).push e) = some l ∧
      s.append? topic e = some
        (⟨topic, some (Partitioner.index e.key s.partitions),
          some (s.entries topic (Partitioner.index e.key s.partitions)).size⟩,
        { s with logs := s.logs.insert topic l }) := by
  obtain ⟨l, hl, hadd⟩ := h.add?_log topic (Partitioner.index_lt e.key h.pos) e
  refine ⟨l, hl, ?_⟩
  rw [append?, Partitioner.index?_natCast e.key h.pos, Option.bind_eq_bind, Option.bind_some, hadd]
  rfl

theorem isSome_append? (h : s.Sized) (topic : String) (e : Entry) :
    (s.append? topic e).isSome := by
  obtain ⟨l, -, happend⟩ := h.append?_eq topic e
  rw [happend]
  rfl

/-- A topic has all its partitions from the first entry on. -/
theorem append? (h : s.Sized) {topic : String} {e : Entry} {place : Metadata}
    (happend : s.append? topic e = some (place, s')) : s'.Sized := by
  obtain ⟨l, hl, heq⟩ := h.append?_eq topic e
  obtain ⟨-, rfl⟩ := Prod.mk.inj (Option.some.inj (heq.symm.trans happend))
  refine ⟨h.pos, fun t l' hget => ?_⟩
  rw [Table.get?_insert] at hget
  split at hget
  · cases hget
    exact (Log.size_of_set? hl).trans (h.size_log topic)
  · exact h.size_eq t l' hget

theorem isSome_endOffset? (h : s.Sized) (tp : TopicPartition) : (s.endOffset? tp).isSome := by
  rw [endOffset?]
  split
  · rfl
  · rename_i hin
    cases hl : s.logs.get? tp.topic with
    | none => rfl
    | some l =>
      rw [Option.isSome_map, Log.isSome_get?, h.size_eq tp.topic l hl]
      omega

end Sized

theorem sized_of_empty {n : Nat} (h : 0 < n) : Sized { partitions := n } :=
  ⟨h, nofun⟩

end Store

end PositionLog
