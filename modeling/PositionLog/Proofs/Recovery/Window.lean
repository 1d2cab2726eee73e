import PositionLog.Proofs.Recovery.OnePartition

/-!
# Which keys are restored

The depth of a cache counts records of a partition, not keys.  A key that is written often pushes
other keys of its partition out of what is read back, even if the cache has room for all of them.
What is restored are the keys that are among the last records of their partitions.
-/

namespace PositionLog

open Broker (Consumer Producer)

namespace Checkpointer

variable {F F' C D P : Type} [LogProducer P] {s : Checkpointer F Producer C D}
  {t : Checkpointer F' P Consumer Loader} {c : Consumer} {l : Loader} {w : Shared}
  {capacity : Int64}

/-- If the cache has room for all keys, it restores those that are among the last records of their
partitions, each once and with the value written last.  These are all keys if no partition is longer
than the cache. -/
theorem restored_iff_in_window (h : Successive s t c l capacity w) (us : List Position)
    (hroom : (us.map Position.stream).dedup.length ≤ capacity.toInt) :
    ∃ w₁ k n t' w₂,
      us.forM publish s w = ((.ok (), s), w₁) ∧
      restore t w₁ = ((.ok ⟨k, n, false⟩, t'), w₂) ∧
      ((w₂.caches.get l.cache).entries.map (·.1)).Nodup ∧
      (∀ stream value, (stream, value) ∈ (w₂.caches.get l.cache).entries ↔
        RecencyCache.value? (us.map Position.entry) stream = some value ∧
          stream ∈ (w.broker.window capacity.toInt us (w.broker.home stream)).map
            Position.stream) ∧
      ((∀ p < w.broker.partitions, (w.broker.routed us p).length ≤ capacity.toInt) →
        ∀ stream value, (stream, value) ∈ (w₂.caches.get l.cache).entries ↔
          RecencyCache.value? (us.map Position.entry) stream = some value) := by
  obtain ⟨w₁, k, rs, t', w₂, hpublish, hrestore, -, hrecalled, hown, -⟩ := h.publish_restore us
  have hall : (w₂.caches.get l.cache).entries = RecencyCache.latest (Record.entries rs) := by
    have hle := hrecalled.length_latest_le
    rw [hown, RecencyCache.newest_eq_self (RecencyCache.excess_of_le (by omega))]
  have hiff (stream : String) (value : Int64) :
      (stream, value) ∈ (w₂.caches.get l.cache).entries ↔
        RecencyCache.value? (us.map Position.entry) stream = some value ∧
          stream ∈ (w.broker.window capacity.toInt us (w.broker.home stream)).map
            Position.stream := by
    rw [hall, RecencyCache.mem_latest, hrecalled.value?_eq_some_iff]
  refine ⟨w₁, k, rs.length, t', w₂, hpublish, hrestore, RecencyCache.nodup_keys _, hiff, ?_⟩
  intro hshort stream value
  rw [hiff, and_iff_left_of_imp]
  intro hv
  obtain ⟨e, he, rfl⟩ := List.mem_map.mp (RecencyCache.exists_value?_iff.mp ⟨value, hv⟩)
  obtain ⟨p, hp, rfl⟩ := List.mem_map.mp he
  rw [Broker.window_of_excess_eq_zero
    (RecencyCache.excess_of_le (hshort _ (w.broker.home_lt _)))]
  exact List.mem_map_of_mem (Broker.mem_routed_home hp)

/-- Two keys are restored to a cache that has room for two. -/
theorem restored_iff_in_window_of_two :
    ∃ w₁ k n t' w₂,
      [⟨"a", 1⟩, ⟨"b", 2⟩].forM publish (simple "t" 0) (.start {} 2 2) =
        ((.ok (), simple "t" 0), w₁) ∧
      restore (simple "t" 1) w₁ = ((.ok ⟨k, n, false⟩, t'), w₂) ∧
      ("a", 1) ∈ (w₂.caches.get 1).entries ∧ ("b", 2) ∈ (w₂.caches.get 1).entries := by
  obtain ⟨w₁, k, n, t', w₂, hpublish, hrestore, -, -, hall⟩ :=
    restored_iff_in_window (successive_simple "t" {} ⟨rfl, rfl⟩ 2 rfl) [⟨"a", 1⟩, ⟨"b", 2⟩]
      (by decide)
  have hshort (p : Nat) :
      (({} : Broker).routed [⟨"a", 1⟩, ⟨"b", 2⟩] p).length ≤ (2 : Int64).toInt :=
    Int.ofNat_le.mpr (List.length_filter_le _ _)
  exact ⟨w₁, k, n, t', w₂, hpublish, hrestore, (hall (fun p _ => hshort p) _ _).mpr (by decide),
    (hall (fun p _ => hshort p) _ _).mpr (by decide)⟩

/-- Of two keys, one is lost when the other one is written twice, although the cache has room for
both. -/
theorem restored_misses_key :
    ([⟨"a", 1⟩, ⟨"b", 2⟩, ⟨"b", 3⟩].map Position.stream).dedup.length ≤ (2 : Int64).toInt ∧
    ∃ w₁ k t' w₂,
      [⟨"a", 1⟩, ⟨"b", 2⟩, ⟨"b", 3⟩].forM publish (simple "t" 0) (.start {} 2 2) =
        ((.ok (), simple "t" 0), w₁) ∧
      restore (simple "t" 1) w₁ = ((.ok ⟨k, 2, false⟩, t'), w₂) ∧
      ∀ value, ("a", value) ∉ (w₂.caches.get 1).entries := by
  refine ⟨by decide, ?_⟩
  obtain ⟨w₁, k, t', w₂, hpublish, hrestore, -, hcache⟩ :=
    (mirrored_simple "t" 2).entries rfl [⟨"a", 1⟩, ⟨"b", 2⟩, ⟨"b", 3⟩]
  have hentries : (w₂.caches.get 1).entries = [("b", 3)] := hcache
  refine ⟨w₁, k, t', w₂, hpublish, hrestore, fun value hmem => ?_⟩
  rw [hentries, List.mem_singleton, Prod.mk.injEq] at hmem
  exact absurd hmem.1 (by decide)

end Checkpointer

end PositionLog
