import PositionLog.Proofs.Broker.Turns

/-!
# What a broker holds

A broker is made with a number of partitions.  A topic gets all of them with its first record, and
an append puts a partition back where it was, so each record finds the partition that its key is
routed to.  Each partition holds what was added under these keys, in the order in which it was
added.
-/

namespace PositionLog.Broker

/-- A record that is added to a topic. -/
structure Addition where
  topic : String
  entry : Entry
deriving DecidableEq, Repr

/-- Whether an addition belongs to a partition, if there are `n` partitions. -/
def Addition.isFor (n : Nat) (topic : String) (p : Nat) (x : Addition) : Bool :=
  x.topic = topic ∧ Partitioner.index x.entry.key n = p

/-- What a command adds, if the broker takes it. -/
def Command.additions : Command → List Addition
  | append topic key value => [⟨topic, ⟨key, value⟩⟩]
  | appendMany topic stem first last factor => (range first last).map fun n =>
      ⟨topic, ⟨Payload.toBytes (numberedKey stem n), Payload.toBytes (Int64.ofInt (n * factor))⟩⟩
  | setUnavailable _ | setQueueFull _ | recordCount _ | endOffset _ | counts => []

/-- What a turn adds.  A broker that is not available takes nothing. -/
def Turn.additions (b : Broker) : Turn → List Addition
  | broker c => if b.unavailable then [] else c.additions
  | consumer .. => []

/-- All that is added, turn after turn. -/
def additions (cs : List Consumer) (w : Shared) : List Turn → List Addition
  | [] => []
  | t :: ts => t.additions w.broker ++ additions (t.run cs w).1.2 (t.run cs w).2 ts

/-- The broker after additions that were taken. -/
def pushAll (b : Broker) (xs : List Addition) : Broker :=
  xs.foldl (fun b x => b.push x.topic x.entry) b

/-- What is stored after all these additions, if each of them finds its partition. -/
def appendAll? (s : Store) (xs : List Addition) : Option Store :=
  xs.foldlM (fun s x => (s.append? x.topic x.entry).map Prod.snd) s

/-- The broker stores what was added for its `n` partitions, and nothing else. -/
structure Partitioned (n : Nat) (xs : List Addition) (b : Broker) : Prop where
  partitions : b.partitions = n
  stored : appendAll? { partitions := n } xs = some b.toStore
  entries : ∀ topic p,
    (b.entries topic p).toList = (xs.filter (Addition.isFor n topic p)).map Addition.entry

/-- A record was added at an offset of a partition, and nothing else has changed. -/
structure Appended (b : Broker) (topic : String) (e : Entry) (p offset : Nat) (b' : Broker) :
    Prop where
  lt : p < b.partitions
  store : b.append? topic e = some (⟨topic, some p, some offset⟩, b'.toStore)
  before : b.endOffset ⟨topic, p⟩ = .ok offset
  after : b'.endOffset ⟨topic, p⟩ = .ok (offset + 1)
  stored : (b'.entries topic p).get? offset = some e
  others : ∀ t q i, (t, q, i) ≠ (topic, p, offset) →
    (b'.entries t q).get? i = (b.entries t q).get? i

/-! ## Where a log ends -/

theorem endOffset_eq_error_iff (b : Broker) (tp : TopicPartition) :
    (∃ cause, b.endOffset tp = .error cause) ↔ tp.partition < 0 ∨ b.partitions ≤ tp.partition := by
  rw [endOffset_eq]
  split
  · rename_i hout
    exact iff_of_true ⟨_, rfl⟩ hout
  · rename_i hin
    exact iff_of_false nofun hin

/-- The ends of all partitions of a topic, in ascending order. -/
theorem map_endOffset (b : Broker) (topic : String) :
    (b.partitionsOf topic).map b.endOffset =
      ((List.range b.partitions).map fun p => (b.entries topic p).size).map .ok := by
  rw [partitionsOf, List.map_map, List.map_map]
  exact List.map_congr_left fun p hp => b.endOffset_natCast topic (List.mem_range.mp hp)

/-- A topic has as many records as the ends of its partitions tell. -/
theorem recordCount_eq_sum_ends (b : Broker) (topic : String) :
    ∃ ends : List Nat, (b.partitionsOf topic).map b.endOffset = ends.map .ok ∧
      b.recordCount topic = ends.sum :=
  ⟨_, b.map_endOffset topic, b.recordCount_eq_sum topic⟩

/-! ## Looking for a partition -/

section Store

variable {s s' : Store}

theorem appendAll?_append (s : Store) (xs ys : List Addition) :
    appendAll? s (xs ++ ys) = (appendAll? s xs).bind (appendAll? · ys) :=
  List.foldlM_append

/-- Where all partitions are there, each addition finds its own, and all are there afterwards. -/
theorem sized_appendAll? (h : s.Sized) (xs : List Addition) :
    ∃ s', appendAll? s xs = some s' ∧ s'.Sized ∧ s'.partitions = s.partitions := by
  induction xs generalizing s with
  | nil => exact ⟨s, rfl, h, rfl⟩
  | cons x xs ih =>
    obtain ⟨l, -, happend⟩ := h.append?_eq x.topic x.entry
    obtain ⟨s', hall, hs', hpartitions⟩ := ih (h.append? happend)
    refine ⟨s', ?_, hs', hpartitions⟩
    rw [appendAll?, List.foldlM_cons, happend]
    exact hall

end Store

/-! ## One record -/

/-- An append fails because the broker is not available, or it adds one record. -/
theorem append_cases (b : Broker) (topic : String) (e : Entry) :
    (b.unavailable = true ∧ ∃ cause, b.append topic e = .error cause) ∨
      b.unavailable = false ∧ b.append topic e =
        .ok (⟨topic, some (b.route e.key), some (b.entries topic (b.route e.key)).size⟩,
          b.push topic e) := by
  rw [append_eq]
  cases b.unavailable with
  | true => exact .inl ⟨rfl, _, rfl⟩
  | false => exact .inr ⟨rfl, rfl⟩

theorem appended_push (b : Broker) (topic : String) (e : Entry) :
    Appended b topic e (b.route e.key) (b.entries topic (b.route e.key)).size
      (b.push topic e) where
  lt := b.route_lt e.key
  store := b.append?_eq_some topic e
  before := b.endOffset_natCast topic (b.route_lt e.key)
  after := by
    have hlt : b.route e.key < (b.push topic e).partitions := by
      rw [partitions_push]
      exact b.route_lt e.key
    rw [endOffset_natCast (b.push topic e) topic hlt, entries_push, if_pos ⟨rfl, rfl⟩,
      Log.size_push]
  stored := by
    rw [entries_push, if_pos ⟨rfl, rfl⟩, Log.get?_push, if_pos rfl]
  others t q i hne := by
    rw [entries_push]
    split
    · rename_i h
      obtain ⟨rfl, rfl⟩ := h
      have hi : (b.entries t (b.route e.key)).size ≠ i := by
        rintro rfl
        exact hne rfl
      rw [Log.get?_push, if_neg hi]
    · rfl

namespace Partitioned

variable {n : Nat} {xs : List Addition} {b b' : Broker}

theorem of_sameLogs (h : Partitioned n xs b) (hb : b.SameLogs b') : Partitioned n xs b' where
  partitions := hb.partitions.trans h.partitions
  stored := hb.toStore_eq ▸ h.stored
  entries topic p := by
    rw [hb.entries_eq]
    exact h.entries topic p

/-- Every topic has all partitions. -/
theorem sized (h : Partitioned n xs b) (hn : 0 < n) : b.Sized := by
  obtain ⟨s', hall, hsized, -⟩ := sized_appendAll? (Store.sized_of_empty hn) xs
  obtain rfl := Option.some.inj (h.stored.symm.trans hall)
  exact hsized

/-- A record that is taken is the last one of its partition. -/
theorem push (h : Partitioned n xs b) (x : Addition) :
    Partitioned n (xs ++ [x]) (b.push x.topic x.entry) where
  partitions := (b.partitions_push x.topic x.entry).trans h.partitions
  stored := by
    rw [appendAll?_append, h.stored, Option.bind_some, appendAll?, List.foldlM_cons,
      append?_eq_some]
    rfl
  entries topic p := by
    have hfor : Addition.isFor n topic p x = true ↔
        topic = x.topic ∧ b.route x.entry.key = p := by
      rw [Addition.isFor, decide_eq_true_iff, ← h.partitions]
      exact and_congr_left' eq_comm
    rw [entries_push, List.filter_append, List.map_append]
    by_cases hx : topic = x.topic ∧ b.route x.entry.key = p
    · rw [if_pos hx, Log.toList_push, ← hx.1, h.entries topic p, List.filter_singleton,
        hfor.mpr hx]
      rfl
    · rw [if_neg hx, h.entries topic p, List.filter_singleton,
        Bool.eq_false_iff.mpr (mt hfor.mp hx)]
      exact (List.append_nil _).symm

theorem pushAll (h : Partitioned n xs b) (ys : List Addition) :
    Partitioned n (xs ++ ys) (b.pushAll ys) := by
  induction ys generalizing xs b with
  | nil =>
    rw [List.append_nil]
    exact h
  | cons y ys ih =>
    rw [List.append_cons]
    exact ih (h.push y)

/-- Records with one key are in one partition, in the order in which they were added. -/
theorem filter_key (h : Partitioned n xs b) (topic : String) (key : Bytes) (p : Nat) :
    (b.entries topic p).toList.filter (·.key = key) =
      if p = b.route key then
        (xs.filter fun x => x.topic = topic ∧ x.entry.key = key).map Addition.entry
      else [] := by
  rw [h.entries topic p, List.filter_map, List.filter_filter]
  have hroute : b.route key = Partitioner.index key n := by rw [route, h.partitions]
  split
  · rename_i hp
    refine congrArg _ (List.filter_congr fun x _ => ?_)
    by_cases hk : x.entry.key = key
    · simp [Addition.isFor, hk, hp, hroute]
    · simp [hk]
  · rename_i hp
    have hnone : xs.filter (fun x => ((·.key = key) ∘ Addition.entry) x &&
        Addition.isFor n topic p x) = [] := by
      refine List.filter_eq_nil_iff.mpr fun x _ hx => hp ?_
      obtain ⟨hk, hin⟩ := (Bool.and_eq_true _ _).mp hx
      rw [hroute, ← of_decide_eq_true hk]
      exact (of_decide_eq_true hin).2.symm
    exact congrArg (List.map Addition.entry) hnone

end Partitioned

/-! ## All turns -/

section Turns

variable {n : Nat} {xs : List Addition} {b : Broker}

theorem appendAll_of_available (h : b.unavailable = false) (topic : String)
    (places : List Metadata) (es : List Entry) :
    (b.appendAll topic places es).2 = b.pushAll (es.map (⟨topic, ·⟩)) := by
  induction es generalizing b places with
  | nil => rfl
  | cons e es ih =>
    rw [appendAll, append_eq, h]
    exact ih (b := b.push topic e) h _

theorem appendAll_of_unavailable (h : b.unavailable = true) (topic : String)
    (places : List Metadata) (es : List Entry) : (b.appendAll topic places es).2 = b := by
  cases es with
  | nil => rfl
  | cons e es =>
    rw [appendAll, append_eq, h]
    rfl

/-- A command adds what it says, unless the broker is not available. -/
theorem run_sameLogs (b : Broker) (c : Command) :
    (b.pushAll (Turn.additions b (.broker c))).SameLogs (b.run c).2 := by
  rw [Turn.additions]
  cases hun : b.unavailable with
  | true =>
    rw [if_pos rfl]
    cases c with
    | append topic key value =>
      rw [run, append_eq, hun]
      exact .refl b
    | appendMany topic stem first last factor =>
      rw [run, appendAll_of_unavailable hun]
      exact .refl b
    | _ => exact ⟨rfl, rfl⟩
  | false =>
    rw [if_neg Bool.false_ne_true]
    cases c with
    | append topic key value =>
      rw [run, append_eq, hun]
      exact .refl _
    | appendMany topic stem first last factor =>
      rw [run, appendAll_of_available hun, List.map_map]
      exact .refl _
    | _ => exact ⟨rfl, rfl⟩

theorem Turn.run_sameLogs (t : Turn) (cs : List Consumer) (w : Shared) :
    (w.broker.pushAll (t.additions w.broker)).SameLogs (t.run cs w).2.broker := by
  cases t with
  | broker c => exact w.broker.run_sameLogs c
  | consumer who a =>
    obtain ⟨n, hn⟩ := broker_member who a cs w
    rw [Turn.run_consumer, hn]
    exact w.broker.sameLogs_withCounts n

theorem forM_run_partitioned {w : Shared} (h : Partitioned n xs w.broker) (cs : List Consumer)
    (ts : List Turn) :
    Partitioned n (xs ++ additions cs w ts) (ts.forM Turn.run cs w).2.broker := by
  induction ts generalizing xs cs w with
  | nil =>
    rw [additions, List.append_nil]
    exact h
  | cons t ts ih =>
    rw [additions, ← List.append_assoc]
    exact ih ((h.pushAll (t.additions w.broker)).of_sameLogs (t.run_sameLogs cs w)) _

/-- In words of 32 bits, there is at least one partition too. -/
theorem toInt_max_one (n : Int32) : (max n 1).toInt = max n.toInt 1 := by
  have hone : (1 : Int32).toInt = 1 := rfl
  have hmax : max n 1 = if n ≤ 1 then 1 else n := rfl
  have hle : n ≤ 1 ↔ n.toInt ≤ 1 := Int32.le_iff_toInt_le
  rw [hmax]
  split
  · rename_i h
    rw [hone, max_eq_right (hle.mp h)]
  · rename_i h
    exact (max_eq_left (Int.le_of_lt (not_le.mp (mt hle.mpr h)))).symm

/-- A broker that is made for any number of partitions has so many, and at least one, and each of
its topics has all of them.  So whatever was appended, the partition of its key was there, and it
will be for whatever is appended next, as well as each partition whose end is asked for.  An append
that is taken adds one record at the end of the partition of its key; one that is refused, and
whatever reads, changes nothing.  A topic has as many records as the ends of its partitions tell. -/
theorem logs_partitioned (n : Int32) (cs : List Consumer) (ts : List Turn) (w : Shared) :
    let start : Shared := { w with broker := withPartitions n.toInt }
    let xs := additions cs start ts
    let b := (ts.forM Turn.run cs start).2.broker
    let m := max n 1
    Partitioned m.toInt.toNat xs b ∧
    (∀ topic l, b.logs.get? topic = some l → l.size = m.toInt.toNat) ∧
    (∀ key, 0 ≤ (Partitioner.remainder key m).toInt ∧
      (Partitioner.remainder key m).toInt < m.toInt) ∧
    (∀ topic e, (b.append? topic e).isSome) ∧
    (∀ tp, (b.endOffset? tp).isSome) ∧
    (∀ topic e, match b.append topic e with
      | .error _ => b.unavailable = true ∧ (b.run (.append topic e.key e.value)).2 = b
      | .ok (place, b') => (b.run (.append topic e.key e.value)).2 = b' ∧
        ∃ p offset : Nat, place = ⟨topic, some p, some offset⟩ ∧
          p = (Partitioner.remainder e.key m).toInt ∧ Appended b topic e p offset b') ∧
    (∀ (t : Turn) (cs' : List Consumer) (w' : Shared),
      (b.pushAll (t.additions b)).SameLogs (t.run cs' { w' with broker := b }).2.broker) ∧
    (∀ topic key, ∃ p < b.partitions, ∀ q,
      (b.entries topic q).toList.filter (·.key = key) =
        if q = p then (xs.filter fun x => x.topic = topic ∧ x.entry.key = key).map Addition.entry
        else []) ∧
    (∀ topic, ∃ ends : List Nat, (b.partitionsOf topic).map b.endOffset = ends.map .ok ∧
      b.recordCount topic = ends.sum) ∧
    ∀ tp, (∃ cause, b.endOffset tp = .error cause) ↔
      tp.partition < 0 ∨ b.partitions ≤ tp.partition := by
  intro start xs b m
  have hm : max 1 n.toInt.toNat = m.toInt.toNat := by
    have hmax : m.toInt = max n.toInt 1 := toInt_max_one n
    omega
  have hpos : 0 < m.toInt.toNat := by omega
  have hstart : Partitioned m.toInt.toNat [] start.broker :=
    ⟨hm, congrArg (fun n => some (Store.mk n {})) hm.symm, fun _ p => rfl⟩
  have hb : Partitioned m.toInt.toNat xs b := forM_run_partitioned hstart cs ts
  refine ⟨hb, fun topic l hl => ((hb.sized hpos).size_eq topic l hl).trans hb.partitions,
    fun key => Partitioner.toInt_remainder_lt key (by omega), (hb.sized hpos).isSome_append?,
    (hb.sized hpos).isSome_endOffset?, fun topic e => ?_,
    fun t cs' w' => t.run_sameLogs cs' { w' with broker := b },
    fun topic key => ⟨b.route key, b.route_lt key, hb.filter_key topic key⟩,
    b.recordCount_eq_sum_ends, b.endOffset_eq_error_iff⟩
  have hroute : (b.route e.key : Int) = (Partitioner.remainder e.key m).toInt := by
    have habs : m.toInt.natAbs = m.toInt.toNat := by omega
    rw [route, hb.partitions, Partitioner.toInt_remainder, habs]
  have hrun : b.run (.append topic e.key e.value) = match b.append topic e with
      | .error cause => (.error cause, b)
      | .ok (at_, b) => (.ok (.appended at_), b) := rfl
  rw [hrun]
  rcases b.append_cases topic e with ⟨hun, cause, happend⟩ | ⟨-, happend⟩
  · rw [happend]
    exact ⟨hun, rfl⟩
  · rw [happend]
    exact ⟨rfl, _, _, rfl, hroute, b.appended_push topic e⟩

end Turns

end PositionLog.Broker
