import PositionLog.Broker.Basic
import PositionLog.Proofs.Position
import Mathlib.Algebra.BigOperators.Group.List.Basic

/-!
# What is on the log

An append adds one record at the end of the partition of its key and changes no other.  So a log
that was written with positions only can be described by the list of these: each partition holds,
in the order in which they were written, those whose keys are routed to it.
-/

namespace PositionLog

/-- A position as it is kept on a log. -/
def Position.toEntry (p : Position) : Entry := ⟨p.key, p.value⟩

/-- A record of a partition. -/
def Record.ofEntry (p : Nat) (e : Entry × Nat) : Record := ⟨p, e.2, e.1.key, e.1.value⟩

/-- Whether a record is of a partition. -/
def Record.isIn (p : Nat) (r : Record) : Bool := r.partition = p

/-- The position that a record was written for, if its value is an offset. -/
def Record.position? (r : Record) : Option Position := Position.ofRecord? r.key r.value

namespace Broker

/-- All records of a partition. -/
def records (b : Broker) (topic : String) (p : Nat) : List Record :=
  (b.entries topic p).toList.zipIdx.map (Record.ofEntry p)

/-- The topic holds these positions, written in this order, and nothing else. -/
def Holds (b : Broker) (topic : String) (ps : List Position) : Prop :=
  ∀ p < b.partitions,
    (b.entries topic p).toList = (ps.filter fun q => b.route q.key = p).map Position.toEntry

/-- The broker takes what producers send. -/
def Accepts (b : Broker) : Prop := b.unavailable = false ∧ b.queueFull = false

/-- The broker after an append that was taken. -/
def push (b : Broker) (topic : String) (e : Entry) : Broker := (b.add topic e).2

/-- The log of a topic holds the entries of its partitions. -/
theorem getD_get?_log (s : Store) (topic : String) (p : Nat) :
    ((s.log topic).get? p).getD {} = s.entries topic p := by
  rw [Store.log, Store.entries]
  cases s.logs.get? topic with
  | none =>
    dsimp only
    rw [Log.get?_replicate]
    split <;> rfl
  | some l => rfl

/-- What is stored is changed in one partition of one topic. -/
theorem add_spec (b : Broker) (topic : String) (e : Entry) :
    (b.add topic e).1 =
        ⟨topic, some (b.route e.key), some (b.entries topic (b.route e.key)).size⟩ ∧
      ∃ l, (b.log topic).set? (b.route e.key) ((b.entries topic (b.route e.key)).push e) = some l ∧
        (b.push topic e).toStore = { b.toStore with logs := b.logs.insert topic l } := by
  obtain ⟨l, hl, happend⟩ := b.sized.append?_eq topic e
  have hget := Option.get_of_eq_some (b.sized.isSome_append? topic e) happend
  exact ⟨congrArg Prod.fst hget, l, hl, congrArg Prod.snd hget⟩

theorem append?_eq_some (b : Broker) (topic : String) (e : Entry) :
    b.append? topic e =
      some (⟨topic, some (b.route e.key), some (b.entries topic (b.route e.key)).size⟩,
        (b.push topic e).toStore) := by
  rw [← (b.add_spec topic e).1]
  exact (Option.some_get (b.sized.isSome_append? topic e)).symm

theorem append_eq (b : Broker) (topic : String) (e : Entry) :
    b.append topic e =
      if b.unavailable then .error (.unavailable "broker is not reachable")
      else .ok (⟨topic, some (b.route e.key), some (b.entries topic (b.route e.key)).size⟩,
        b.push topic e) := by
  rw [append, ← (b.add_spec topic e).1]
  rfl

/-- Whoever asks for the end of a partition is told it, or that there is no such partition. -/
theorem endOffset_eq (b : Broker) (tp : TopicPartition) :
    b.endOffset tp =
      if tp.partition < 0 ∨ b.partitions ≤ tp.partition then
        .error (.invalidState ("unknown partition " ++ tp.render))
      else .ok (b.entries tp.topic tp.partition.toNat).size := by
  refine Option.get_of_eq_some (b.sized.isSome_endOffset? tp) ?_
  rw [Store.endOffset?, Store.entries]
  split
  · rfl
  · rename_i hin
    cases hl : b.logs.get? tp.topic with
    | none => rfl
    | some l =>
      have hsome : (l.get? tp.partition.toNat).isSome :=
        Log.isSome_get?.mpr (by have := b.sized.size_eq tp.topic l hl; omega)
      obtain ⟨records, hr⟩ := Option.isSome_iff_exists.mp hsome
      dsimp only
      rw [Option.bind_some, hr]
      rfl

theorem endOffset_natCast (b : Broker) (topic : String) {p : Nat} (hp : p < b.partitions) :
    b.endOffset ⟨topic, p⟩ = .ok (b.entries topic p).size := by
  have hin : ¬((p : Int) < 0 ∨ (b.partitions : Int) ≤ p) := by omega
  rw [endOffset_eq, if_neg hin]
  rfl

/-- Only the number of partitions decides where a key goes. -/
theorem route_congr {b b' : Broker} (h : b'.partitions = b.partitions) : b'.route = b.route := by
  funext key
  rw [route, route, h]

section Push

variable (b : Broker) (topic : String) (e : Entry)

@[simp] theorem partitions_push : (b.push topic e).partitions = b.partitions := by
  obtain ⟨-, l, -, hpush⟩ := b.add_spec topic e
  rw [hpush]

@[simp] theorem unavailable_push : (b.push topic e).unavailable = b.unavailable := rfl

@[simp] theorem queueFull_push : (b.push topic e).queueFull = b.queueFull := rfl

@[simp] theorem accepts_push : (b.push topic e).Accepts ↔ b.Accepts := Iff.rfl

@[simp] theorem route_push : (b.push topic e).route = b.route :=
  route_congr (b.partitions_push topic e)

theorem entries_push (t : String) (p : Nat) :
    (b.push topic e).entries t p =
      if t = topic ∧ b.route e.key = p then (b.entries topic p).push e else b.entries t p := by
  obtain ⟨-, l, hl, hpush⟩ := b.add_spec topic e
  rw [hpush, Store.entries, Table.get?_insert]
  by_cases ht : t = topic
  · subst ht
    rw [if_pos rfl, Option.bind_some, Log.get?_of_set? hl, ← getD_get?_log]
    by_cases hp : b.route e.key = p
    · subst hp
      rw [if_pos rfl, if_pos ⟨rfl, rfl⟩, getD_get?_log]
      rfl
    · rw [if_neg hp, if_neg fun h => hp h.2, getD_get?_log]
  · rw [if_neg ht, if_neg fun h => ht h.1]
    rfl

theorem records_push (t : String) (p : Nat) :
    (b.push topic e).records t p = b.records t p ++
      if t = topic ∧ b.route e.key = p then
        [Record.ofEntry p (e, (b.entries topic p).size)]
      else [] := by
  unfold records
  rw [entries_push]
  split
  · rename_i h
    rw [Log.toList_push, List.zipIdx_append, List.map_append, h.1]
    simp
  · rw [List.append_nil]

end Push

@[simp] theorem length_records (b : Broker) (topic : String) (p : Nat) :
    (b.records topic p).length = (b.entries topic p).size := by
  rw [records, List.length_map, List.length_zipIdx, Log.length_toList]

theorem partition_of_mem_records {b : Broker} {topic : String} {p : Nat} {r : Record}
    (h : r ∈ b.records topic p) : r.partition = p := by
  obtain ⟨e, -, rfl⟩ := List.mem_map.mp h
  rfl

theorem filter_isIn_of_partition {l : List Record} {p : Nat} (h : ∀ r ∈ l, r.partition = p)
    (q : Nat) : l.filter (Record.isIn q) = if p = q then l else [] := by
  split
  · subst q
    exact List.filter_eq_self.mpr fun r hr => decide_eq_true (h r hr)
  · apply List.filter_eq_nil_iff.mpr
    intro r hr
    have hp := h r hr
    simp only [Record.isIn, decide_eq_true_eq]
    omega

/-! ## Growth -/

/-- Nothing was done to a topic but to add records. -/
structure Extends (b b' : Broker) (topic : String) : Prop where
  partitions : b'.partitions = b.partitions
  records (p : Nat) : b.records topic p <+: b'.records topic p

namespace Extends

variable {b b' b'' : Broker} {topic : String}

theorem refl (b : Broker) (topic : String) : b.Extends b topic := ⟨rfl, fun _ => List.prefix_rfl⟩

theorem trans (h : b.Extends b' topic) (h' : b'.Extends b'' topic) : b.Extends b'' topic :=
  ⟨h'.partitions.trans h.partitions, fun p => (h.records p).trans (h'.records p)⟩

theorem size_le (h : b.Extends b' topic) (p : Nat) :
    (b.entries topic p).size ≤ (b'.entries topic p).size := by
  rw [← length_records, ← length_records]
  exact (h.records p).length_le

end Extends

/-- Both have the same logs, whatever else was done. -/
structure SameLogs (b b' : Broker) : Prop where
  partitions : b'.partitions = b.partitions
  logs : b'.logs = b.logs

namespace SameLogs

variable {b b' b'' : Broker}

theorem refl (b : Broker) : b.SameLogs b := ⟨rfl, rfl⟩

theorem symm (h : b.SameLogs b') : b'.SameLogs b := ⟨h.partitions.symm, h.logs.symm⟩

theorem trans (h : b.SameLogs b') (h' : b'.SameLogs b'') : b.SameLogs b'' :=
  ⟨h'.partitions.trans h.partitions, h'.logs.trans h.logs⟩

theorem toStore_eq (h : b.SameLogs b') : b'.toStore = b.toStore := by
  obtain ⟨⟨_, _⟩, _⟩ := b
  obtain ⟨⟨_, _⟩, _⟩ := b'
  obtain ⟨rfl, rfl⟩ := h
  rfl

theorem entries_eq (h : b.SameLogs b') (topic : String) (p : Nat) :
    b'.entries topic p = b.entries topic p := by
  rw [Store.entries, Store.entries, h.logs]

theorem records_eq (h : b.SameLogs b') (topic : String) (p : Nat) :
    b'.records topic p = b.records topic p := by
  rw [records, records, h.entries_eq]

theorem recordCount_eq (h : b.SameLogs b') (topic : String) :
    b'.recordCount topic = b.recordCount topic := by
  rw [Store.recordCount, Store.recordCount, h.logs]

end SameLogs

theorem SameLogs.extends {b b' : Broker} (h : b.SameLogs b') (topic : String) :
    b.Extends b' topic :=
  ⟨h.partitions, fun p => h.records_eq topic p ▸ List.prefix_rfl⟩

theorem extends_push (b : Broker) (t : String) (e : Entry) (topic : String) :
    b.Extends (b.push t e) topic := by
  refine ⟨b.partitions_push t e, fun p => ?_⟩
  rw [records_push]
  exact List.prefix_append _ _

/-- A topic has the records of all its partitions. -/
theorem recordCount_eq_sum (b : Broker) (topic : String) :
    b.recordCount topic =
      ((List.range b.partitions).map fun p => (b.entries topic p).size).sum := by
  rw [Store.recordCount]
  cases hl : b.logs.get? topic with
  | none =>
    have hnone (p : Nat) : (b.entries topic p).size = 0 := by
      rw [Store.entries, hl]
      rfl
    simp only [hnone, List.map_const', List.sum_replicate, Nat.nsmul_eq_mul, Nat.mul_zero]
  | some l =>
    have hsome (p : Nat) : (b.entries topic p).size = ((l.get? p).getD {}).size := by
      rw [Store.entries, hl, Option.bind_some]
    simp only [hsome, ← b.sized.size_eq topic l hl, ← l.map_toList]
    rfl

theorem sum_ite_eq_of_lt {n i : Nat} (h : i < n) :
    ((List.range n).map fun p => if p = i then 1 else 0).sum = 1 := by
  have hcount (l : List Nat) : (l.map fun p => if p = i then 1 else 0).sum = l.count i := by
    induction l with
    | nil => rfl
    | cons p l ih => simp [List.count_cons, ih, Nat.add_comm]
  rw [hcount, List.nodup_range.count, if_pos (List.mem_range.mpr h)]

/-- An append adds one record to its topic. -/
theorem recordCount_push (b : Broker) (topic : String) (e : Entry) (t : String) :
    (b.push topic e).recordCount t = b.recordCount t + if t = topic then 1 else 0 := by
  rw [recordCount_eq_sum, recordCount_eq_sum, partitions_push]
  by_cases ht : t = topic
  · subst ht
    have hsize (p : Nat) : ((b.push t e).entries t p).size =
        (b.entries t p).size + if p = b.route e.key then 1 else 0 := by
      rw [entries_push]
      by_cases hp : b.route e.key = p
      · rw [if_pos ⟨rfl, hp⟩, if_pos hp.symm, Log.size_push]
      · rw [if_neg fun hc => hp hc.2, if_neg (Ne.symm hp), Nat.add_zero]
    rw [List.map_congr_left fun p _ => hsize p, List.sum_map_add, if_pos rfl,
      sum_ite_eq_of_lt (b.route_lt e.key)]
  · have hsize (p : Nat) : (b.push topic e).entries t p = b.entries t p := by
      rw [entries_push, if_neg fun hc => ht hc.1]
    simp only [hsize, if_neg ht, Nat.add_zero]

/-! ## Logs of positions -/

/-- A topic without records holds no positions. -/
theorem holds_nil {b : Broker} {topic : String} (h : b.recordCount topic = 0) :
    b.Holds topic [] := by
  intro p hp
  rw [recordCount_eq_sum] at h
  have hs : (b.entries topic p).size = 0 :=
    List.sum_eq_zero_iff_forall_eq_nat.mp h _ (List.mem_map_of_mem (List.mem_range.mpr hp))
  exact List.eq_nil_of_length_eq_zero (by rw [Log.length_toList, hs])

/-- A position that is taken is the last one on the topic. -/
theorem Holds.push {b : Broker} {topic : String} {ps : List Position} (h : b.Holds topic ps)
    (q : Position) : (b.push topic q.toEntry).Holds topic (ps ++ [q]) := by
  intro p hp
  rw [partitions_push] at hp
  rw [entries_push, List.filter_append, List.map_append]
  by_cases hq : b.route q.key = p
  · rw [if_pos ⟨rfl, hq⟩, Log.toList_push, h p hp, List.filter_singleton, route_push]
    simp only [hq, decide_true, cond_true]
    rfl
  · rw [if_neg fun hc => hq hc.2, h p hp, List.filter_singleton, route_push]
    simp only [hq, decide_false, cond_false, List.map_nil, List.append_nil]

theorem Holds.map_position?_records {b : Broker} {topic : String} {ps : List Position}
    (h : b.Holds topic ps) {p : Nat} (hp : p < b.partitions) :
    (b.records topic p).map Record.position? =
      (ps.filter fun q => b.route q.key = p).map some := by
  have he (l : List Entry) : (l.zipIdx.map (Record.ofEntry p)).map Record.position? =
      l.map fun e => Position.ofRecord? e.key e.value := by
    conv_rhs => rw [← List.zipIdx_map_fst 0 l, List.map_map]
    rw [List.map_map]
    rfl
  rw [records, he, h p hp, List.map_map]
  exact List.map_congr_left fun q _ => Position.ofRecord?_key_value q

/-- The number of records of a partition is the number of positions routed to it. -/
theorem Holds.size_entries {b : Broker} {topic : String} {ps : List Position}
    (h : b.Holds topic ps) {p : Nat} (hp : p < b.partitions) :
    (b.entries topic p).size = (ps.filter fun q => b.route q.key = p).length := by
  rw [← Log.length_toList, h p hp, List.length_map]

/-- A topic has as many records as positions were written. -/
theorem Holds.recordCount {b : Broker} {topic : String} {ps : List Position}
    (h : b.Holds topic ps) : b.recordCount topic = ps.length := by
  have hsum (qs : List Position) : ((List.range b.partitions).map fun p =>
      (qs.filter fun q => b.route q.key = p).length).sum = qs.length := by
    induction qs with
    | nil => simp
    | cons q qs ih =>
      have hcons (p : Nat) : ((q :: qs).filter fun q => b.route q.key = p).length =
          (qs.filter fun q => b.route q.key = p).length + if p = b.route q.key then 1 else 0 := by
        rw [List.filter_cons]
        by_cases hp : b.route q.key = p
        · rw [if_pos (decide_eq_true hp), if_pos hp.symm, List.length_cons]
        · rw [if_neg (mt of_decide_eq_true hp), if_neg (Ne.symm hp), Nat.add_zero]
      rw [List.map_congr_left fun p _ => hcons p, List.sum_map_add, ih,
        sum_ite_eq_of_lt (b.route_lt q.key), List.length_cons]
  rw [recordCount_eq_sum, ← hsum ps]
  exact congrArg List.sum (List.map_congr_left fun p hp => h.size_entries (List.mem_range.mp hp))

end Broker

end PositionLog
