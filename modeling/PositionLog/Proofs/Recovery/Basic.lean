import PositionLog.Proofs.Checkpointer.Init
import PositionLog.Proofs.Loader

/-!
# Restoring an empty cache

A checkpointer whose cache is empty reads back, of each partition, as many of the last records as
the cache may hold, and all of them if it is unbounded.  What is in the cache then is what is left
of these.
-/

namespace PositionLog

open Broker (Consumer Producer)

/-- The cache is new and may hold so many entries. -/
structure RecencyCache.IsNew (c : RecencyCache) (capacity : Int64) : Prop where
  capacity_eq : c.capacity = capacity.toInt
  entries_eq : c.entries = []

namespace Broker

/-- Those of the positions of one partition that are read back for a cache of this capacity. -/
def window (b : Broker) (capacity : Int) (ps : List Position) (p : Nat) : List Position :=
  (b.routed ps p).drop (RecencyCache.excess capacity (b.routed ps p).length)

/-- A partition is read back as far as the cache is deep. -/
theorem startOf_replayDepth (b : Broker) (topic : String) {c : RecencyCache} {capacity : Int64}
    (hc : c.capacity = capacity.toInt) (p : Nat) :
    b.startOf topic c.replayDepth p =
      RecencyCache.excess capacity.toInt (b.entries topic p).size := by
  have hlt := capacity.toInt_lt
  unfold startOf startAt RecencyCache.replayDepth RecencyCache.excess Rewind.reach
  rw [hc, Rewind.maxOffset_eq]
  by_cases h : 1 ≤ capacity.toInt
  · have hle : capacity.toInt.toNat ≤ 2 ^ 63 - 1 := by omega
    rw [if_pos h, if_pos (by omega), if_pos (by omega), Nat.min_eq_left hle]
  · rw [if_neg h, if_neg (by omega), if_neg (by omega)]

/-- These records were read back for a cache of this capacity, from a log of these positions. -/
structure Recalled (b : Broker) (capacity : Int) (ps : List Position) (rs : List Record) :
    Prop where
  partition : ∀ r ∈ rs, ∃ p < b.partitions, r.partition = p
  window : ∀ p < b.partitions,
    (rs.filter (Record.isIn p)).filterMap Record.position? = b.window capacity ps p
  length : ∀ p < b.partitions, (rs.filter (Record.isIn p)).length = (b.window capacity ps p).length
  value? : ∀ stream, RecencyCache.value? (Record.entries rs) stream =
    RecencyCache.value? ((b.window capacity ps (b.home stream)).map Position.entry) stream

theorem drop_startOf {b : Broker} {topic : String} {ps : List Position} (hlog : b.Holds topic ps)
    {c : RecencyCache} {capacity : Int64} (hc : c.capacity = capacity.toInt) {p : Nat}
    (hp : p < b.partitions) :
    (b.routed ps p).drop (b.startOf topic c.replayDepth p) = b.window capacity.toInt ps p := by
  rw [b.startOf_replayDepth topic hc, hlog.size_entries hp]
  rfl

theorem window_congr {b b' : Broker} (h : b'.partitions = b.partitions) : b'.window = b.window := by
  funext capacity ps p
  rw [window, window, routed_congr h]

theorem Recalled.of_partitions_eq {b b' : Broker} (hb : b'.partitions = b.partitions)
    {capacity : Int} {ps : List Position} {rs : List Record} (h : b.Recalled capacity ps rs) :
    b'.Recalled capacity ps rs := by
  constructor
  · rw [hb]
    exact h.partition
  · rw [hb, window_congr hb]
    exact h.window
  · rw [hb, window_congr hb]
    exact h.length
  · rw [window_congr hb, home_congr hb]
    exact h.value?

theorem ReadAll.recalled {b : Broker} {topic : String} {c : RecencyCache} {capacity : Int64}
    {ps : List Position} {rs : List Record} (h : b.ReadAll topic (b.startOf topic c.replayDepth) rs)
    (hlog : b.Holds topic ps) (hc : c.capacity = capacity.toInt) :
    b.Recalled capacity.toInt ps rs := by
  refine ⟨h.partition, fun p hp => ?_, fun p hp => ?_, fun stream => ?_⟩
  · rw [h.inOrder p hp, hlog.filterMap_drop_records hp, drop_startOf hlog hc hp]
  · rw [h.inOrder p hp, ← drop_startOf hlog hc hp, List.length_drop, List.length_drop,
      length_records, hlog.size_entries hp]
    rfl
  · rw [h.value?_entries hlog, drop_startOf hlog hc (home_lt _ _)]

/-- A key is read back with a value exactly if this was written last, and late enough. -/
theorem Recalled.value?_eq_some_iff {b : Broker} {capacity : Int} {ps : List Position}
    {rs : List Record} (h : b.Recalled capacity ps rs) {stream : String} {value : Int64} :
    RecencyCache.value? (Record.entries rs) stream = some value ↔
      RecencyCache.value? (ps.map Position.entry) stream = some value ∧
        stream ∈ (b.window capacity ps (b.home stream)).map Position.stream := by
  have hsuffix : (b.window capacity ps (b.home stream)).map Position.entry <:+
      (b.routed ps (b.home stream)).map Position.entry := (List.drop_suffix _ _).map _
  have hkeys : ((b.window capacity ps (b.home stream)).map Position.entry).map (·.1) =
      (b.window capacity ps (b.home stream)).map Position.stream := List.map_map
  rw [h.value?, ← b.value?_routed ps stream, ← hkeys]
  constructor
  · intro hv
    exact ⟨RecencyCache.value?_of_suffix hsuffix hv, RecencyCache.exists_value?_iff.mp ⟨value, hv⟩⟩
  · rintro ⟨hv, hmem⟩
    obtain ⟨v, hw⟩ := RecencyCache.exists_value?_iff.mpr hmem
    rw [RecencyCache.value?_of_suffix hsuffix hw] at hv
    rw [hw, hv]

/-- No more keys are read back than were written. -/
theorem Recalled.length_latest_le {b : Broker} {capacity : Int} {ps : List Position}
    {rs : List Record} (h : b.Recalled capacity ps rs) :
    (RecencyCache.latest (Record.entries rs)).length ≤ (ps.map Position.stream).dedup.length := by
  rw [RecencyCache.length_latest]
  apply (List.nodup_dedup _).length_le_of_subset
  intro stream hmem
  obtain ⟨value, hv⟩ := RecencyCache.exists_value?_iff.mpr (List.mem_dedup.mp hmem)
  obtain ⟨p, hp, rfl⟩ := List.mem_map.mp (h.value?_eq_some_iff.mp hv).2
  have hps : p ∈ ps := (List.mem_filter.mp (List.mem_of_mem_drop hp)).1
  exact List.mem_dedup.mpr (List.mem_map_of_mem hps)

/-- A partition that is not longer than the cache is read back from its start. -/
theorem window_of_excess_eq_zero {b : Broker} {capacity : Int} {ps : List Position} {p : Nat}
    (h : RecencyCache.excess capacity (b.routed ps p).length = 0) :
    b.window capacity ps p = b.routed ps p := by
  rw [window, h, List.drop_zero]

theorem mem_routed_home {b : Broker} {ps : List Position} {p : Position} (h : p ∈ ps) :
    p ∈ b.routed ps (b.home p.stream) :=
  List.mem_filter.mpr ⟨h, decide_eq_true rfl⟩

/-- All keys are in the cache if no number of records up to that of all is in excess. -/
theorem Recalled.mem_newest {b : Broker} {capacity : Int} {ps : List Position} {rs : List Record}
    (h : b.Recalled capacity ps rs) (hroom : ∀ n ≤ ps.length, RecencyCache.excess capacity n = 0)
    {p : Position} (hp : p ∈ ps) :
    p.stream ∈
      (RecencyCache.newest capacity (RecencyCache.latest (Record.entries rs))).map (·.1) := by
  have hlength := h.length_latest_le.trans (List.dedup_sublist _).length_le
  rw [List.length_map] at hlength
  have hwindow : b.window capacity ps (b.home p.stream) = b.routed ps (b.home p.stream) :=
    window_of_excess_eq_zero (hroom _ (List.length_filter_le _ _))
  have hkey : p.stream ∈ (ps.map Position.entry).map (·.1) :=
    List.mem_map_of_mem (List.mem_map_of_mem hp)
  obtain ⟨value, hv⟩ := RecencyCache.exists_value?_iff.mpr hkey
  have hmem : p.stream ∈ (b.window capacity ps (b.home p.stream)).map Position.stream := by
    rw [hwindow]
    exact List.mem_map_of_mem (mem_routed_home hp)
  rw [RecencyCache.newest_eq_self (hroom _ hlength)]
  exact List.mem_map_of_mem (RecencyCache.mem_latest.mpr (h.value?_eq_some_iff.mpr ⟨hv, hmem⟩))

end Broker

namespace Checkpointer

/-- The checkpointer can restore, with a loader, the cache that also tells how far back to read. -/
structure CanRestoreCache {F P : Type} (t : Checkpointer F P Consumer Loader) (c : Consumer)
    (l : Loader) : Prop extends t.CanRestore c l where
  cache : t.write.cache = some l.cache
  stopAt : l.stopAt = none

/-- A checkpointer that was just initialized can restore the cache that it was given. -/
theorem canRestoreCache_ready {settings : Settings} (factory : Broker.Factory)
    (losses cache counter : Nat) (hretry : 0 < settings.retryCount) :
    (ready settings factory losses (some cache) ({ cache, counter } : Loader)).CanRestoreCache
      { failsToClose := factory.failsConsumerClose, maxPollRecords := max 1 factory.maxPollRecords }
      { cache, counter } :=
  { canRestore_ready factory losses (some cache) _ hretry with cache := rfl, stopAt := rfl }

variable {F P : Type} [LogProducer P] {t : Checkpointer F P Consumer Loader} {c : Consumer}
  {l : Loader}

/-- What is left of the last records of each partition is in the cache afterwards. -/
theorem restore_new (h : t.CanRestoreCache c l) {w : Shared} {capacity : Int64}
    {ps : List Position} (hlog : w.broker.Holds t.topic ps) (hcache : l.cache < w.caches.size)
    (hnew : (w.caches.get l.cache).IsNew capacity) :
    ∃ k rs t' w', restore t w = ((.ok ⟨k, rs.length, false⟩, t'), w') ∧
      (w'.caches.get l.cache).entries =
        RecencyCache.newest capacity.toInt (RecencyCache.latest (Record.entries rs)) ∧
      w.broker.Recalled capacity.toInt ps rs ∧
      ∀ j ≠ l.cache, w'.caches.get j = w.caches.get j := by
  obtain ⟨k, rs, c', w', hrestore, hbroker, hall, hown, hothers⟩ :=
    restore_loader h.toCanRestore h.stopAt hcache
  rw [hbroker, depth_of_cache h.cache w] at hall
  refine ⟨k, rs, _, w', hrestore, ?_, hall.recalled hlog hnew.capacity_eq, hothers⟩
  rw [hown, RecencyCache.entries_addAll_of_empty hnew.entries_eq, hnew.capacity_eq]

/-! ## One checkpointer after another -/

/-- One checkpointer can publish on an empty topic, another one can restore from it a new cache
that the first has nothing to do with. -/
structure Successive {F F' C D P : Type} (s : Checkpointer F Producer C D)
    (t : Checkpointer F' P Consumer Loader) (c : Consumer) (l : Loader) (capacity : Int64)
    (w : Shared) : Prop where
  canPublish : s.CanPublish
  canRestore : t.CanRestoreCache c l
  topic : t.topic = s.topic
  accepts : w.broker.Accepts
  empty : w.broker.recordCount s.topic = 0
  apart : s.write.cache ≠ some l.cache
  cache_lt : l.cache < w.caches.size
  cache_new : (w.caches.get l.cache).IsNew capacity

/-- All that was published is on the topic, and the second checkpointer reads the end of it. -/
theorem Successive.publish_restore {F' C D : Type} {s : Checkpointer F' Producer C D} {w : Shared}
    {capacity : Int64} (h : Successive s t c l capacity w) (us : List Position) :
    ∃ w₁ k rs t' w₂,
      us.forM publish s w = ((.ok (), s), w₁) ∧
      restore t w₁ = ((.ok ⟨k, rs.length, false⟩, t'), w₂) ∧
      Recorded s.topic s.write.cache us w w₁ ∧
      w.broker.Recalled capacity.toInt us rs ∧
      (w₂.caches.get l.cache).entries =
        RecencyCache.newest capacity.toInt (RecencyCache.latest (Record.entries rs)) ∧
      ∀ j ≠ l.cache, w₂.caches.get j = w₁.caches.get j := by
  obtain ⟨w₁, hpublish, hrecorded⟩ := forM_publish h.canPublish us h.accepts
  have hlog : w₁.broker.Holds t.topic us := by
    rw [h.topic]
    exact hrecorded.holds [] (Broker.holds_nil h.empty)
  have hcache : w₁.caches.get l.cache = w.caches.get l.cache := by
    rw [hrecorded.get l.cache h.cache_lt, if_neg h.apart]
  obtain ⟨k, rs, t', w₂, hrestore, hown, hrecalled, hothers⟩ :=
    restore_new h.canRestore hlog (hrecorded.size ▸ h.cache_lt) (hcache ▸ h.cache_new)
  exact ⟨w₁, k, rs, t', w₂, hpublish, hrestore, hrecorded,
    hrecalled.of_partitions_eq hrecorded.partitions.symm, hown, hothers⟩

end Checkpointer

/-! ## A small setting -/

/-- Settings for a topic, with single polls. -/
def Settings.simple (topic : String) : Settings := ⟨topic, 1, 1, .batch, {}, {}⟩

/-- A new broker, and some new caches. -/
def Shared.start (broker : Broker) (caches : Nat) (capacity : Int64) : Shared :=
  { broker, caches := ⟨List.replicate caches (.new capacity.toInt)⟩ }

theorem Shared.isNew_start (broker : Broker) {caches i : Nat} (capacity : Int64) (hi : i < caches) :
    ((Shared.start broker caches capacity).caches.get i).IsNew capacity := by
  have hget : (Shared.start broker caches capacity).caches.get i = .new capacity.toInt := by
    simp [start, Pool.get, hi]
  rw [hget]
  exact ⟨rfl, RecencyCache.entries_new capacity.toInt⟩

/-- A checkpointer that was just initialized, and loads into its own cache. -/
def Checkpointer.simple (topic : String) (cache : Nat) :
    Checkpointer Broker.Factory Producer Consumer Loader :=
  ready (.simple topic) {} cache (some cache) { cache, counter := cache }

theorem Checkpointer.successive_simple (topic : String) (broker : Broker) (hacc : broker.Accepts)
    (capacity : Int64) (hempty : broker.recordCount topic = 0) :
    Successive (simple topic 0) (simple topic 1) {} { cache := 1, counter := 1 } capacity
      (.start broker 2 capacity) where
  canPublish := canPublish_ready ..
  canRestore := canRestoreCache_ready _ _ _ _ Nat.one_pos
  topic := rfl
  accepts := hacc
  empty := hempty
  apart := nofun
  cache_lt := Nat.one_lt_two
  cache_new := Shared.isNew_start broker capacity Nat.one_lt_two

end PositionLog
