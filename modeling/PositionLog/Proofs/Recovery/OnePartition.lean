import PositionLog.Proofs.Recovery.Basic

/-!
# Restoring a cache from one partition

One checkpointer publishes positions, and mirrors them in its cache.  Another one restores its own
cache from the topic.  What it reads back are the last records, and a key may have several of these;
so its cache is the newest part of the one that was kept up to date, but not always all of it.
-/

namespace PositionLog

open Broker (Consumer Producer)

namespace Broker

/-- Everything goes to the only partition. -/
theorem routed_of_partitions_eq_one {b : Broker} (h : b.partitions = 1) (ps : List Position) :
    b.routed ps 0 = ps := by
  refine List.filter_eq_self.mpr fun q _ => decide_eq_true ?_
  have hlt := b.route_lt q.key
  omega

/-- From one partition, the last positions are read back. -/
theorem Recalled.of_partitions_eq_one {b : Broker} (hone : b.partitions = 1) {capacity : Int}
    {ps : List Position} {rs : List Record} (h : b.Recalled capacity ps rs) :
    Record.entries rs = RecencyCache.newest capacity (ps.map Position.entry) ∧
      rs.length = ps.length - RecencyCache.excess capacity ps.length := by
  have hzero : 0 < b.partitions := by omega
  have hall : rs.filter (Record.isIn 0) = rs := by
    apply List.filter_eq_self.mpr
    intro r hr
    obtain ⟨p, hp, hrp⟩ := h.partition r hr
    obtain rfl : p = 0 := by omega
    exact decide_eq_true hrp
  have hwindow := h.window 0 hzero
  have hlength := h.length 0 hzero
  rw [hall, Broker.window, routed_of_partitions_eq_one hone] at hwindow hlength
  constructor
  · rw [Record.entries, hwindow, RecencyCache.newest, List.map_drop, List.length_map]
  · rw [hlength, List.length_drop]

end Broker

namespace Checkpointer

variable {F F' C D P : Type} [LogProducer P] {s : Checkpointer F Producer C D}
  {t : Checkpointer F' P Consumer Loader} {c : Consumer} {l : Loader} {w : Shared} {i : Nat}
  {capacity : Int64}

/-- The first checkpointer mirrors what it publishes in a new cache of the same capacity. -/
structure Mirrored (s : Checkpointer F Producer C D) (t : Checkpointer F' P Consumer Loader)
    (c : Consumer) (l : Loader) (i : Nat) (capacity : Int64) (w : Shared) : Prop extends
    Successive s t c l capacity w where
  mirror : s.write.cache = some i
  mirror_lt : i < w.caches.size
  mirror_new : (w.caches.get i).IsNew capacity

theorem mirrored_simple (topic : String) (capacity : Int64) :
    Mirrored (simple topic 0) (simple topic 1) {} { cache := 1, counter := 1 } 0 capacity
      (.start {} 2 capacity) :=
  { successive_simple topic {} ⟨rfl, rfl⟩ capacity rfl with
    mirror := rfl
    mirror_lt := Nat.two_pos
    mirror_new := Shared.isNew_start {} capacity Nat.two_pos }

/-- The mirror is cut after the additions, the restored cache before them. -/
theorem Mirrored.entries (h : Mirrored s t c l i capacity w) (hone : w.broker.partitions = 1)
    (us : List Position) :
    ∃ w₁ k t' w₂,
      us.forM publish s w = ((.ok (), s), w₁) ∧
      restore t w₁ =
        ((.ok ⟨k, us.length - RecencyCache.excess capacity.toInt us.length, false⟩, t'), w₂) ∧
      (w₂.caches.get i).entries =
        RecencyCache.newest capacity.toInt (RecencyCache.latest (us.map Position.entry)) ∧
      (w₂.caches.get l.cache).entries =
        RecencyCache.latest (RecencyCache.newest capacity.toInt (us.map Position.entry)) := by
  obtain ⟨w₁, k, rs, t', w₂, hpublish, hrestore, hrecorded, hrecalled, hown, hothers⟩ :=
    h.publish_restore us
  obtain ⟨hentries, hlength⟩ := hrecalled.of_partitions_eq_one hone
  have hapart : i ≠ l.cache := by
    rintro rfl
    exact h.apart h.mirror
  refine ⟨w₁, k, t', w₂, hpublish, hlength ▸ hrestore, ?_, ?_⟩
  · rw [hothers i hapart, hrecorded.get i h.mirror_lt, if_pos h.mirror,
      RecencyCache.entries_addAll_of_empty h.mirror_new.entries_eq, h.mirror_new.capacity_eq]
  · rw [hown, hentries, RecencyCache.newest_latest_newest]

/-- What is restored from one partition is the newest part of what was mirrored while it was
written: one entry for each key of the last records.  It is all of it exactly if these are of as
many keys as the mirror has entries. -/
theorem restored_suffix_mirrored (h : Mirrored s t c l i capacity w) (hpos : 0 < capacity.toInt)
    (hone : w.broker.partitions = 1) (us : List Position) :
    ∃ w₁ k t' w₂,
      us.forM publish s w = ((.ok (), s), w₁) ∧
      restore t w₁ = ((.ok ⟨k, min capacity.toInt.toNat us.length, false⟩, t'), w₂) ∧
      (w₂.caches.get l.cache).entries <:+ (w₂.caches.get i).entries ∧
      (w₂.caches.get l.cache).entries =
        RecencyCache.latest ((us.rtake capacity.toInt.toNat).map Position.entry) ∧
      (w₂.caches.get l.cache).entries.map (·.1) =
        ((us.rtake capacity.toInt.toNat).map Position.stream).dedup ∧
      ((w₂.caches.get l.cache).entries = (w₂.caches.get i).entries ↔
        ((us.rtake capacity.toInt.toNat).map Position.stream).dedup.length =
          min capacity.toInt.toNat (us.map Position.stream).dedup.length) ∧
      (us.length ≤ capacity.toInt →
        (w₂.caches.get l.cache).entries = (w₂.caches.get i).entries) ∧
      (((us.rtake capacity.toInt.toNat).map Position.stream).Nodup →
        (w₂.caches.get l.cache).entries = (w₂.caches.get i).entries) := by
  obtain ⟨w₁, k, t', w₂, hpublish, hrestore, hmirror, hcache⟩ := h.entries hone us
  have hlast : RecencyCache.newest capacity.toInt (us.map Position.entry) =
      (us.rtake capacity.toInt.toNat).map Position.entry := by
    rw [RecencyCache.newest, RecencyCache.excess, if_pos hpos, List.length_map, ← List.map_drop]
    rfl
  have hkeys (vs : List Position) : (vs.map Position.entry).map (·.1) = vs.map Position.stream :=
    List.map_map
  have hcount : us.length - RecencyCache.excess capacity.toInt us.length =
      min capacity.toInt.toNat us.length := by
    rw [RecencyCache.excess, if_pos hpos]
    omega
  refine ⟨w₁, k, t', w₂, hpublish, hcount ▸ hrestore, ?_, ?_, ?_, ?_, ?_, ?_⟩
  · rw [hmirror, hcache]
    exact RecencyCache.latest_newest_suffix _ _
  · rw [hcache, hlast]
  · rw [hcache, hlast, RecencyCache.keys_latest, hkeys]
  · rw [hmirror, hcache, RecencyCache.latest_newest_eq_iff, hlast, RecencyCache.length_latest,
      hkeys, RecencyCache.length_newest, RecencyCache.length_latest, hkeys, RecencyCache.excess,
      if_pos hpos]
    omega
  · intro hle
    rw [hmirror, hcache]
    exact RecencyCache.latest_newest_of_length_le (by rwa [List.length_map])
  · intro hnodup
    rw [hmirror, hcache]
    exact RecencyCache.latest_newest_of_nodup hpos (by rwa [hlast, hkeys])

/-- A key that was written twice has pushed another one out of what is read back. -/
theorem restored_suffix_mirrored_of_repeated :
    ∃ w₁ k t' w₂,
      [⟨"a", 1⟩, ⟨"b", 2⟩, ⟨"b", 3⟩].forM publish (simple "t" 0) (.start {} 2 2) =
        ((.ok (), simple "t" 0), w₁) ∧
      restore (simple "t" 1) w₁ = ((.ok ⟨k, 2, false⟩, t'), w₂) ∧
      (w₂.caches.get 1).entries = [("b", 3)] ∧
      (w₂.caches.get 1).entries ≠ (w₂.caches.get 0).entries := by
  obtain ⟨w₁, k, t', w₂, hpublish, hrestore, -, hcache, -, hiff, -, -⟩ :=
    restored_suffix_mirrored (mirrored_simple "t" 2) (by decide) rfl
      [⟨"a", 1⟩, ⟨"b", 2⟩, ⟨"b", 3⟩]
  exact ⟨w₁, k, t', w₂, hpublish, hrestore, hcache, mt hiff.mp (by decide)⟩

end Checkpointer

end PositionLog
