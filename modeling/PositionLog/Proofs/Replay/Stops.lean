import PositionLog.Proofs.Loader
import PositionLog.Proofs.Replay.Outcomes

/-!
# What a stop leaves out

A loader counts the records that it is given, in all its replays, and asks to stop with one of them.
So what a replay hands over depends on how many more records the loader waits for.  If it waits for
none, all is handed over.  Else the records end with the one it waits for, and with a replay that
only skips the batch they go on behind that batch.
-/

namespace PositionLog

theorem Pool.modify_modify {α : Type} (p : Pool α) (i : Nat) (f g : α → α) :
    (p.modify i f).modify i g = p.modify i (g ∘ f) := by
  rw [modify, modify, modify, List.modify_modify_eq]

namespace Broker

/-- All records of a topic, in the order in which they are read. -/
def allRecords (b : Broker) (topic : String) : List Record :=
  (List.range b.partitions).flatMap (b.records topic)

theorem unreadAll_empty (b : Broker) (topic : String) :
    b.unreadAll topic {} = b.allRecords topic := by
  refine congrArg List.flatten (List.map_congr_left fun p _ => ?_)
  rw [unreadOf, Slots.getD_empty, List.drop_zero]

theorem length_allRecords (b : Broker) (topic : String) :
    (b.allRecords topic).length = b.recordCount topic := by
  rw [allRecords, List.length_flatMap, recordCount_eq_sum]
  exact congrArg List.sum (List.map_congr_left fun p _ => b.length_records topic p)

end Broker

/-- Where a record stands. -/
def Record.place (r : Record) : Int × Int := (r.partition, r.offset)

/-- Where the record stands that was read, if one was. -/
def Notice.place? : Notice → Option (Int × Int)
  | .read partition offset => some (partition, offset)
  | _ => none

/-- What was read so far. -/
def Shared.placesRead (w : Shared) : List (Int × Int) :=
  w.notices.toList.filterMap Notice.place?

namespace Loader

/-- These records were read and given to a loader: it has counted them, and added them to its cache,
and nothing else was done that matters. -/
structure Took (l : Loader) (rs : List Record) (w w' : Shared) : Prop where
  broker : w'.broker = w.broker
  counters : w'.counters = w.counters.modify l.counter (· + rs.length)
  size : w'.caches.size = w.caches.size
  own : w'.caches.get l.cache = (w.caches.get l.cache).addAll (Record.entries rs)
  others : ∀ j ≠ l.cache, w'.caches.get j = w.caches.get j
  placesRead : w'.placesRead = w.placesRead ++ rs.map Record.place

section Took

variable {l : Loader} {rs rs' : List Record} {w w' w'' : Shared}

theorem Took.trans (h : l.Took rs w w') (h' : l.Took rs' w' w'') : l.Took (rs ++ rs') w w'' where
  broker := h'.broker.trans h.broker
  counters := by
    rw [h'.counters, h.counters, Pool.modify_modify, List.length_append]
    congr 1
    funext k
    exact Nat.add_assoc ..
  size := h'.size.trans h.size
  own := by rw [h'.own, h.own, Record.entries_append, RecencyCache.addAll_append]
  others j hj := (h'.others j hj).trans (h.others j hj)
  placesRead := by rw [h'.placesRead, h.placesRead, List.map_append, List.append_assoc]

theorem placesRead_told (w : Shared) (n : Notice) :
    (w.withNotices (w.notices.push n)).placesRead = w.placesRead ++ n.place?.toList := by
  change (w.notices.push n).toList.filterMap Notice.place? = _
  rw [Log.toList_push, List.filterMap_append]
  cases hn : n.place? <;> rw [List.filterMap_cons, hn] <;> rfl

theorem Took.refl (w : Shared) : l.Took [] w w where
  broker := rfl
  counters := (congrArg Pool.mk (List.modify_id ..)).symm
  size := rfl
  own := rfl
  others _ _ := rfl
  placesRead := (List.append_nil _).symm

/-- Nothing is read by what else is told. -/
theorem took_told {n : Notice} (h : n.place? = none) (w : Shared) :
    l.Took [] w (w.withNotices (w.notices.push n)) where
  __ := Took.refl w
  placesRead := by
    rw [placesRead_told, h]
    rfl

theorem Took.told (h : l.Took rs w w') {n : Notice} (hn : n.place? = none) :
    l.Took rs w (w'.withNotices (w'.notices.push n)) := by
  have hboth := h.trans (took_told hn w')
  rwa [List.append_nil] at hboth

/-- The records were counted. -/
theorem Took.get_counter (h : l.Took rs w w') (hcounter : l.counter < w.counters.size) :
    w'.counters.get l.counter = w.counters.get l.counter + rs.length := by
  rw [h.counters, Pool.get_modify_self w.counters hcounter]

theorem Took.size_counters (h : l.Took rs w w') : w'.counters.size = w.counters.size := by
  rw [h.counters, Pool.size_modify]

/-- How much a cache may hold stays the same. -/
theorem Took.capacity (h : l.Took rs w w') (j : Nat) :
    (w'.caches.get j).capacity = (w.caches.get j).capacity := by
  by_cases hj : j = l.cache
  · rw [hj, h.own, RecencyCache.capacity_addAll]
  · rw [h.others j hj]

/-- A record is read, and the loader is given it. -/
theorem took_singleton (r : Record) (w : Shared) (hcache : l.cache < w.caches.size) :
    l.Took [r] w { w.withNotices (w.notices.push (.read r.partition r.offset)) with
      caches := l.cachesAfter w.caches r
      counters := w.counters.modify l.counter (· + 1) } where
  broker := rfl
  counters := rfl
  size := size_cachesAfter w.caches r
  own := get_cachesAfter_self hcache r
  others _ hj := get_cachesAfter_of_ne w.caches hj r
  placesRead := placesRead_told w (.read r.partition r.offset)

end Took

end Loader

namespace Replay

open Broker (Consumer Subscription)

/-! ## What is handed over -/

/-- The records up to the `j`-th, or all of them if `j` is `0`. -/
def upTo {α : Type} (j : Nat) (rs : List α) : List α := if j = 0 then rs else rs.take j

/-- What is handed over of these records in batches of this size, if a stop is asked for with the
`j`-th of them, or with none if `j` is `0`. -/
def handed {α : Type} (halt : HaltScope) (limit j : Nat) (rs : List α) : List α :=
  match halt with
  | .batch => if j = 0 then rs else rs.take j ++ rs.drop (limit * (j ⌈/⌉ limit))
  | .replay => upTo j rs

/-- The records of the batches that are taken meanwhile, handed over or not, but for those left out
at the end of the replay. -/
def taken {α : Type} (halt : HaltScope) (j : Nat) (rs : List α) : List α :=
  match halt with
  | .batch => rs
  | .replay => upTo j rs

section Handed

variable {α : Type}

theorem upTo_zero (rs : List α) : upTo 0 rs = rs := rfl

theorem upTo_of_pos {j : Nat} (h : 0 < j) (rs : List α) : upTo j rs = rs.take j :=
  if_neg h.ne'

/-- If the first record is not the last one, the others are one fewer. -/
theorem upTo_cons {j : Nat} (h : j ≠ 1) (r : α) (rs : List α) :
    upTo j (r :: rs) = r :: upTo (j - 1) rs := by
  rcases Nat.eq_zero_or_pos j with rfl | hpos
  · rfl
  · obtain ⟨k, rfl⟩ : ∃ k, j = k + 2 := ⟨j - 2, by omega⟩
    rfl

theorem length_upTo (j : Nat) (rs : List α) :
    (upTo j rs).length = if j = 0 then rs.length else min j rs.length := by
  unfold upTo
  split
  · rfl
  · exact List.length_take

theorem upTo_of_length_le {j : Nat} {rs : List α} (h : rs.length ≤ j) : upTo j rs = rs := by
  unfold upTo
  split
  · rfl
  · exact List.take_of_length_le h

theorem handed_zero (halt : HaltScope) (limit : Nat) (rs : List α) :
    handed halt limit 0 rs = rs := by
  cases halt <;> rfl

theorem taken_zero (halt : HaltScope) (rs : List α) : taken halt 0 rs = rs := by
  cases halt <;> rfl

theorem handed_nil (halt : HaltScope) (limit j : Nat) : handed halt limit j ([] : List α) = [] := by
  cases halt <;> simp [handed, upTo]

theorem taken_nil (halt : HaltScope) (j : Nat) : taken halt j ([] : List α) = [] := by
  cases halt <;> simp [taken, upTo]

variable {halt : HaltScope} {limit j : Nat} (hlimit : 0 < limit) {rs : List α}
include hlimit

/-- What fits into one batch is handed over up to the stop. -/
theorem handed_of_length_le (h : rs.length ≤ limit) : handed halt limit j rs = upTo j rs := by
  cases halt with
  | replay => rfl
  | batch =>
    rcases Nat.eq_zero_or_pos j with rfl | hpos
    · rfl
    · have hend : rs.length ≤ limit * (j ⌈/⌉ limit) := by
        rw [ceilDiv_eq_add_one hlimit hpos, Nat.mul_add_one]
        exact h.trans (Nat.le_add_left limit _)
      rw [handed, if_neg hpos.ne', List.drop_eq_nil_of_le hend, List.append_nil, upTo_of_pos hpos]

/-- What a skipped batch leaves out is what stands in it behind the stop. -/
theorem length_handed_batch (j : Nat) (rs : List α) :
    (handed .batch limit j rs).length =
      if j = 0 ∨ rs.length < j then rs.length
      else j + rs.length - min rs.length (limit * (j ⌈/⌉ limit)) := by
  rcases Nat.eq_zero_or_pos j with rfl | hpos
  · rw [handed_zero, if_pos (.inl rfl)]
  · have hend : j ≤ limit * (j ⌈/⌉ limit) := le_smul_ceilDiv hlimit
    rw [handed, if_neg hpos.ne', List.length_append, List.length_take, List.length_drop]
    split <;> omega

/-- A replay that goes on hands over the first batch up to the stop, and then of the other records
what it would if it began with them. -/
theorem handed_of_going (hgo : halt = .batch ∨ ¬(1 ≤ j ∧ j ≤ (rs.take limit).length)) :
    handed halt limit j rs = upTo j (rs.take limit) ++
      handed halt limit (j - (upTo j (rs.take limit)).length) (rs.drop limit) := by
  rcases le_or_gt rs.length limit with hshort | hlong
  · rw [handed_of_length_le hlimit hshort, List.take_of_length_le hshort,
      List.drop_eq_nil_of_le hshort, handed_nil, List.append_nil]
  have hbatch : (rs.take limit).length = limit := List.length_take_of_le hlong.le
  rcases Nat.eq_zero_or_pos j with rfl | hpos
  · -- No stop is asked for.
    rw [Nat.zero_sub, upTo_zero]
    cases halt <;> exact (List.take_append_drop limit rs).symm
  rcases le_or_gt j limit with hle | hlt
  · -- The stop is in the first batch, and the next one is handed over from its start.
    obtain rfl : halt = .batch := hgo.resolve_right fun hne => hne ⟨hpos, hbatch.symm ▸ hle⟩
    have hone : j ⌈/⌉ limit = 1 := by
      rw [ceilDiv_eq_add_one hlimit hpos, Nat.sub_eq_zero_of_le hle, zero_ceilDiv]
    have hcut : upTo j (rs.take limit) = rs.take j := by
      rw [upTo_of_pos hpos, List.take_take, Nat.min_eq_left hle]
    have hlength : (rs.take j).length = j := List.length_take_of_le (hle.trans hlong.le)
    rw [hcut, hlength, Nat.sub_self, handed, if_neg hpos.ne', hone, Nat.mul_one]
    rfl
  · -- The stop is not in the first batch.
    have hpos' : 0 < j - limit := Nat.sub_pos_of_lt hlt
    have hsplit : rs.take j = rs.take limit ++ (rs.drop limit).take (j - limit) := by
      rw [← List.take_add, Nat.add_sub_cancel' hlt.le]
    rw [upTo_of_length_le (hbatch.trans_le hlt.le), hbatch]
    cases halt with
    | replay =>
      rw [handed, handed, upTo_of_pos hpos, upTo_of_pos hpos', hsplit]
    | batch =>
      rw [handed, handed, if_neg hpos.ne', if_neg hpos'.ne', hsplit, List.append_assoc,
        List.drop_drop, ceilDiv_eq_add_one hlimit hpos, Nat.mul_add_one, Nat.add_comm limit]

/-- Its first batch is one of those that are taken. -/
theorem taken_of_going (hne : rs ≠ [])
    (hgo : halt = .batch ∨ ¬(1 ≤ j ∧ j ≤ (rs.take limit).length)) :
    (taken halt j rs).length ⌈/⌉ limit =
      (taken halt (j - (upTo j (rs.take limit)).length) (rs.drop limit)).length ⌈/⌉ limit + 1 := by
  have hlength := List.length_pos_of_ne_nil hne
  cases halt with
  | batch =>
    rw [taken, taken, List.length_drop]
    exact ceilDiv_eq_add_one hlimit hlength
  | replay =>
    have hgo := hgo.resolve_left nofun
    rw [List.length_take] at hgo
    have hpos : 0 < (upTo j rs).length := by
      rw [length_upTo]
      split <;> omega
    have hleft : (upTo (j - (upTo j (rs.take limit)).length) (rs.drop limit)).length =
        (upTo j rs).length - limit := by
      simp only [length_upTo, List.length_take, List.length_drop]
      split <;> split <;> omega
    rw [taken, taken, hleft]
    exact ceilDiv_eq_add_one hlimit hpos

/-- A replay that ends with a stop in its first batch takes no other. -/
theorem handed_of_stop (h : 1 ≤ j ∧ j ≤ (rs.take limit).length) :
    handed .replay limit j rs = upTo j (rs.take limit) ∧
      (taken .replay j rs).length ⌈/⌉ limit = 1 := by
  have hle := h.2
  rw [List.length_take] at hle
  constructor
  · rw [handed, upTo_of_pos h.1, upTo_of_pos h.1, List.take_take, Nat.min_eq_left (by omega)]
  · have hlength : (upTo j rs).length = j := by
      rw [upTo_of_pos h.1]
      exact List.length_take_of_le (by omega)
    rw [taken, hlength, ceilDiv_eq_add_one hlimit h.1, Nat.sub_eq_zero_of_le (by omega),
      zero_ceilDiv]

omit hlimit in
/-- A stop is asked for with a record of the first batch, or with one of the others. -/
theorem stops_iff (limit j : Nat) (rs : List α) : (1 ≤ j ∧ j ≤ (rs.take limit).length) ∨
      (1 ≤ j - (upTo j (rs.take limit)).length ∧
        j - (upTo j (rs.take limit)).length ≤ (rs.drop limit).length) ↔
    1 ≤ j ∧ j ≤ rs.length := by
  rw [length_upTo, List.length_take, List.length_drop]
  split <;> omega

end Handed

/-! ## One batch -/

section Feed

variable {C P : Type} [LogProducer P] {l : Loader} {n : Nat}

theorem take_loader {s : Playback C Loader P} (hd : s.deserializer = l) (r : Record) (w : Shared) :
    Playback.take r.key r.value s w =
      ((l.stopAt != some ((w.counters.modify l.counter (· + 1)).get l.counter), s),
        { w with
          caches := l.cachesAfter w.caches r
          counters := w.counters.modify l.counter (· + 1) }) := by
  subst hd
  exact Act.on_of_eq (Loader.deserialize_eq s.deserializer s.write r w)

/-- A batch is handed over up to the record that the loader waits for. -/
theorem feed_stopping (hstop : l.stopAt = some n) {s : Playback C Loader P}
    (hd : s.deserializer = l) (batch : List Record) (records : Nat) {w : Shared}
    (hcounter : l.counter < w.counters.size) (hcache : l.cache < w.caches.size) :
    let j := n - w.counters.get l.counter
    ∃ w', feed Playback.take records batch s w =
        (((records + (upTo j batch).length, decide (1 ≤ j ∧ j ≤ batch.length)), s), w') ∧
      l.Took (upTo j batch) w w' := by
  intro j
  induction batch generalizing records w with
  | nil =>
    have hnone : upTo j ([] : List Record) = [] := by simp [upTo]
    rw [hnone, List.length_nil, decide_eq_false (by omega)]
    exact ⟨w, rfl, .refl w⟩
  | cons r batch ih =>
    have htook := Loader.took_singleton r w hcache
    have htake := take_loader hd r (w.withNotices (w.notices.push (.read r.partition r.offset)))
    generalize hw₁ : ({ w.withNotices (w.notices.push (.read r.partition r.offset)) with
      caches := l.cachesAfter w.caches r
      counters := w.counters.modify l.counter (· + 1) } : Shared) = w₁ at htook
    have hcount : w₁.counters.get l.counter = w.counters.get l.counter + 1 :=
      htook.get_counter hcounter
    have hleft : n - w₁.counters.get l.counter = j - 1 := by
      rw [hcount]
      exact Nat.sub_add_eq ..
    have hmore : (l.stopAt != some (w₁.counters.get l.counter)) = decide (j ≠ 1) := by
      rw [hstop, hcount, Bool.eq_iff_iff, bne_iff_ne, ne_eq, Option.some_inj, decide_eq_true_iff]
      omega
    have hfeed : feed Playback.take records (r :: batch) s w =
        (if decide (j ≠ 1) then feed Playback.take (records + 1) batch
          else pure (records + 1, true) : Act _ _) s w₁ := by
      subst hw₁
      rw [← hmore]
      exact (Act.bind_of_eq (Act.lift_of_eq (Shared.tell_eq _ w))).trans (Act.bind_of_eq htake)
    by_cases hj : j = 1
    · rw [decide_eq_false (not_not.mpr hj)] at hfeed
      rw [hj, decide_eq_true ⟨Nat.le_refl 1, Nat.le_add_left 1 _⟩]
      exact ⟨w₁, hfeed, htook⟩
    · obtain ⟨w', hrest, htook'⟩ := ih (records + 1) (htook.size_counters ▸ hcounter)
        (htook.size ▸ hcache)
      rw [hleft] at hrest htook'
      rw [decide_eq_true hj] at hfeed
      have hhalted : (1 ≤ j - 1 ∧ j - 1 ≤ batch.length) ↔ (1 ≤ j ∧ j ≤ (r :: batch).length) := by
        rw [List.length_cons]
        omega
      rw [upTo_cons hj, ← decide_eq_decide.mpr hhalted, List.length_cons, Nat.add_comm _ 1,
        ← Nat.add_assoc]
      exact ⟨w', hfeed.trans hrest, htook.trans htook'⟩

end Feed

/-! ## All batches -/

section Drain

variable {P : Type} [LogProducer P] {l : Loader} {n : Nat}

/-- One round takes a batch, hands it over up to the stop, and goes on unless the replay is to
end. -/
theorem drain_succ_stopping (hstop : l.stopAt = some n) (timeout : Nat) {retries : Nat}
    (halt : HaltScope) (rounds : Nat) (sum : Summary) {s : Playback Consumer Loader P} {w : Shared}
    {sub : Subscription} {positions : Slots Nat} {rs : List Record} {j : Nat}
    (hopen : s.consumer.closed = false) (hs : s.consumer.subscription = some sub)
    (ha : sub.assign w = (positions, w)) (hstall : s.consumer.stalledPolls < retries)
    (hmax : 0 < s.consumer.maxPollRecords) (hd : s.deserializer = l)
    (hcounter : l.counter < w.counters.size) (hcache : l.cache < w.caches.size)
    (hrs : w.broker.unreadAll sub.topic positions = rs) (hj : n - w.counters.get l.counter = j)
    (hne : rs ≠ []) :
    let batch := rs.take s.consumer.maxPollRecords
    let halted := decide (1 ≤ j ∧ j ≤ batch.length)
    let sum' : Summary :=
      ⟨sum.batches + 1, sum.records + (upTo j batch).length, sum.halted || halted⟩
    ∃ positions' polls w',
      let s' := { s with consumer := s.consumer.reading sub positions' 0 polls }
      drain (Playback.poll timeout) Playback.take retries halt (rounds + 1) sum s w =
        (if halted && halt = .replay then
          ((.ok sum', s'), w'.withNotices (w'.notices.push .replayEnded))
        else drain (Playback.poll timeout) Playback.take retries halt rounds sum' s' w') ∧
      l.Took (upTo j batch) w w' ∧
      w.broker.unreadAll sub.topic positions' = rs.drop s.consumer.maxPollRecords := by
  obtain ⟨positions', hfirst, -, hrest⟩ :=
    firstBatch_spec timeout (n := w.notices) hopen hs ha hstall hmax
  rw [hrs, if_neg hne] at hfirst
  rw [hrs] at hrest
  have hbatch : rs.take s.consumer.maxPollRecords ≠ [] := take_ne_nil hmax hne
  obtain ⟨w', hfeed, hfed⟩ := feed_stopping hstop (s := { s with
      consumer := s.consumer.reading sub positions' 0
        (s.consumer.polls + (s.consumer.stalledPolls + 1)) }) hd
    (rs.take s.consumer.maxPollRecords) sum.records
    (w := w.withNotices (w.notices.push (.batch (rs.take s.consumer.maxPollRecords).length)))
    hcounter hcache
  rw [Shared.counters_withNotices, hj] at hfeed hfed
  exact ⟨positions', _, w', drain_succ_of_batch hfirst hbatch hfeed,
    (Loader.took_told rfl w).trans hfed, hrest⟩

/-- With enough rounds, all is handed over but what the stop leaves out. -/
theorem drain_stopping (hstop : l.stopAt = some n) (timeout : Nat) {retries : Nat}
    (halt : HaltScope) {rounds : Nat} (sum : Summary) {s : Playback Consumer Loader P} {w : Shared}
    {sub : Subscription} {positions : Slots Nat} {rs : List Record} {j : Nat}
    (hopen : s.consumer.closed = false) (hs : s.consumer.subscription = some sub)
    (ha : sub.assign w = (positions, w)) (hstall : s.consumer.stalledPolls < retries)
    (hmax : 0 < s.consumer.maxPollRecords) (hd : s.deserializer = l)
    (hcounter : l.counter < w.counters.size) (hcache : l.cache < w.caches.size)
    (hrs : w.broker.unreadAll sub.topic positions = rs) (hj : n - w.counters.get l.counter = j)
    (hrounds : rs.length < rounds) :
    ∃ positions' polls w',
      drain (Playback.poll timeout) Playback.take retries halt rounds sum s w =
        ((.ok ⟨sum.batches + (taken halt j rs).length ⌈/⌉ s.consumer.maxPollRecords,
            sum.records + (handed halt s.consumer.maxPollRecords j rs).length,
            sum.halted || decide (1 ≤ j ∧ j ≤ rs.length)⟩,
          { s with consumer := s.consumer.reading sub positions' 0 polls }), w') ∧
      l.Took (handed halt s.consumer.maxPollRecords j rs) w w' := by
  -- Each batch leaves less unread, so the rounds are never used up.
  induction rounds generalizing sum s w sub positions rs j with
  | zero => exact absurd hrounds (Nat.not_lt_zero _)
  | succ rounds ih =>
    by_cases hnil : rs = []
    · subst hnil
      obtain ⟨positions', hfirst, -, -⟩ :=
        firstBatch_spec timeout (n := w.notices) hopen hs ha hstall hmax
      rw [hrs, if_pos rfl, List.take_nil] at hfirst
      have hnone : ¬(1 ≤ j ∧ j ≤ 0) := by omega
      rw [taken_nil, handed_nil, List.length_nil, zero_ceilDiv, decide_eq_false hnone,
        Bool.or_false]
      exact ⟨positions', _, w, drain_succ_of_nil hfirst, .refl w⟩
    obtain ⟨positions', polls, w', hround, htook, hrest⟩ := drain_succ_stopping hstop timeout halt
      rounds sum hopen hs ha hstall hmax hd hcounter hcache hrs hj hnil
    by_cases hend : halt = .replay ∧ 1 ≤ j ∧ j ≤ (rs.take s.consumer.maxPollRecords).length
    · obtain ⟨rfl, hstops⟩ := hend
      obtain ⟨hhanded, htaken⟩ := handed_of_stop hmax hstops
      rw [decide_eq_true hstops] at hround
      rw [hhanded, htaken, decide_eq_true ((stops_iff _ j rs).mp (.inl hstops))]
      exact ⟨positions', polls, _, hround, htook.told rfl⟩
    · have hgo : halt = .batch ∨ ¬(1 ≤ j ∧ j ≤ (rs.take s.consumer.maxPollRecords).length) := by
        cases halt with
        | batch => exact .inl rfl
        | replay => exact .inr fun hstops => hend ⟨rfl, hstops⟩
      have hbroker := htook.broker
      have hless : (rs.drop s.consumer.maxPollRecords).length < rounds := by
        have hpos := List.length_pos_of_ne_nil hnil
        rw [List.length_drop]
        omega
      obtain ⟨positions'', polls', w'', hdrain, htook'⟩ := ih
        ⟨sum.batches + 1, sum.records + (upTo j (rs.take s.consumer.maxPollRecords)).length,
          sum.halted || decide (1 ≤ j ∧ j ≤ (rs.take s.consumer.maxPollRecords).length)⟩
        (s := { s with consumer := s.consumer.reading sub positions' 0 polls }) (w := w')
        hopen rfl (Consumer.assign_some sub positions' w') (Nat.zero_lt_of_lt hstall) hmax hd
        (htook.size_counters ▸ hcounter) (htook.size ▸ hcache) (hbroker ▸ hrest)
        (by rw [htook.get_counter hcounter, Nat.sub_add_eq, hj]) hless
      rw [if_neg] at hround
      · refine ⟨positions'', polls', w'', hround.trans (hdrain.trans ?_), ?_⟩
        · dsimp only
          rw [taken_of_going hmax hnil hgo, handed_of_going hmax hgo, List.length_append,
            ← decide_eq_decide.mpr (stops_iff s.consumer.maxPollRecords j rs),
            Bool.decide_or, Bool.or_assoc, Nat.add_assoc, Nat.add_assoc, Nat.add_comm 1]
          rfl
        · rw [handed_of_going hmax hgo]
          exact htook.trans htook'
      · intro hboth
        rw [Bool.and_eq_true, decide_eq_true_iff, decide_eq_true_iff] at hboth
        exact hend hboth.symm

/-- A replay from the start hands over all records but what the stop leaves out. -/
theorem run_stopping (hstop : l.stopAt = some n) (timeout : Nat) {retries : Nat} (halt : HaltScope)
    {s : Playback Consumer Loader P} {w : Shared} {topic : String} {j : Nat}
    (hopen : s.consumer.closed = false)
    (hs : s.consumer.subscription = some { topic, listener := none })
    (hstall : s.consumer.stalledPolls < retries) (hmax : 0 < s.consumer.maxPollRecords)
    (hd : s.deserializer = l) (hcounter : l.counter < w.counters.size)
    (hcache : l.cache < w.caches.size) (hj : n - w.counters.get l.counter = j) :
    let rs := w.broker.allRecords topic
    ∃ positions polls w',
      Playback.run timeout retries halt s w =
        ((.ok ⟨(taken halt j rs).length ⌈/⌉ s.consumer.maxPollRecords,
            (handed halt s.consumer.maxPollRecords j rs).length,
            decide (1 ≤ j ∧ j ≤ rs.length)⟩,
          { s with consumer := s.consumer.reading { topic, listener := none } positions 0 polls }),
          w') ∧
      l.Took (handed halt s.consumer.maxPollRecords j rs) w w' := by
  intro rs
  have hrounds : rs.length < s.rounds w := by
    have hbacklog : LogConsumer.backlog s.consumer w = w.broker.recordCount topic := by
      change Consumer.backlog s.consumer w = _
      rw [Consumer.backlog, hs]
    rw [w.broker.length_allRecords topic, ← hbacklog]
    exact Nat.lt_succ_of_le (Nat.le_add_right _ _)
  have hassign : ({ topic, listener := none } : Subscription).assign w = ({}, w) := rfl
  obtain ⟨positions, polls, w', hdrain, htook⟩ := drain_stopping hstop timeout halt {} hopen hs
    hassign hstall hmax hd hcounter hcache (w.broker.unreadAll_empty topic) hj hrounds
  rw [Nat.zero_add, Nat.zero_add, Bool.false_or] at hdrain
  exact ⟨positions, polls, w', hdrain, htook⟩

end Drain

end Replay

end PositionLog
