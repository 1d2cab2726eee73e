import PositionLog.Proofs.Replay.Delivery
import PositionLog.Proofs.Recovery.Basic

/-!
# Restoring again

A checkpointer restores its cache from where its topic is read back to, whatever was restored
before.  So it restores the same records again, and what they leave in the cache is what they have
left there already: each of them becomes the newest once more, in the same order.
-/

namespace PositionLog.Checkpointer

open Broker (Consumer Subscription)

/-- So many restorations, as long as none of them fails. -/
def restores {F P C D : Type} [LogProducer P] [LogConsumer C] [Deserializer D] :
    Nat → Operation (Checkpointer F P C D) (List Replay.Summary)
  | 0 => return []
  | n + 1 => do
    let sum ← restore
    let sums ← restores n
    return sum :: sums

variable {F P : Type}

/-- The records that a checkpointer reads back. -/
def recalled {D : Type} (s : Checkpointer F P Consumer D) (w : Shared) : List Record :=
  Subscription.unread { topic := s.topic, listener := Broker.rewinding (s.depth w) } w.broker

/-- What it amounts to, that so many records are read back in batches of this size. -/
def recalledIn (limit : Nat) (rs : List Record) : Replay.Summary :=
  ⟨rs.length ⌈/⌉ limit, rs.length, false⟩

/-- These records were added to the cache of the loader.  The consumer has left the topic, and can
join it again. -/
structure Restored (l : Loader) (c : Consumer) (w : Shared) (rs : List Record) (c' : Consumer)
    (w' : Shared) : Prop where
  opened : c'.closed = false
  stalledPolls : c'.stalledPolls = 0
  maxPollRecords : c'.maxPollRecords = c.maxPollRecords
  broker : w'.broker = w.broker
  size : w'.caches.size = w.caches.size
  own : w'.caches.get l.cache = (w.caches.get l.cache).addAll (Record.entries rs)

variable {s : Checkpointer F P Consumer Loader} {c c' : Consumer} {l : Loader} {w w' : Shared}
  {rs : List Record}

/-- It can restore again. -/
theorem Restored.canRestoreCache (h : s.CanRestoreCache c l) (hr : Restored l c w rs c' w') :
    { s with read := .apart c' l }.CanRestoreCache c' l where
  not_stopped := h.not_stopped
  read := rfl
  opened := hr.opened
  stalledPolls_lt := hr.stalledPolls ▸ Nat.zero_lt_of_lt h.stalledPolls_lt
  maxPollRecords_pos := hr.maxPollRecords ▸ h.maxPollRecords_pos
  cache := h.cache
  stopAt := h.stopAt

/-- The same records are read back again. -/
theorem Restored.recalled_eq (h : s.CanRestoreCache c l) (hr : Restored l c w rs c' w') :
    { s with read := .apart c' l }.recalled w' = s.recalled w := by
  have hdepth : { s with read := .apart c' l }.depth w' = s.depth w := by
    rw [depth_of_cache (s := { s with read := .apart c' l }) h.cache, depth_of_cache h.cache,
      hr.own, RecencyCache.replayDepth, RecencyCache.capacity_addAll]
    rfl
  rw [recalled, hdepth, hr.broker]
  rfl

variable [LogProducer P]

/-- One restoration. -/
theorem restore_restored (h : s.CanRestoreCache c l) (hcache : l.cache < w.caches.size) :
    ∃ c' w', restore s w =
        ((.ok (recalledIn c.maxPollRecords (s.recalled w)), { s with read := .apart c' l }), w') ∧
      Restored l c w (s.recalled w) c' w' := by
  let sub : Subscription := { topic := s.topic, listener := Broker.rewinding (s.depth w) }
  obtain ⟨n, ha⟩ := sub.assign_rewind (Broker.rewinding_rewinds _)
    (w.withNotices (s.noticesBefore w))
  obtain ⟨k, rs, i, positions, w', hrun, hloaded, -, -, -, hall⟩ :=
    Replay.run_of_assigned s.settings.pollTimeout s.settings.halt
      (s := { consumer := c.joined s.topic (s.depth w), deserializer := l, write := some s.write })
      h.opened rfl ha h.stalledPolls_lt h.maxPollRecords_pos
      (Loader.keeps_loaded h.stopAt (some s.write) hcache s.topic (sub.start w.broker))
      ⟨rfl, rfl, rfl, rfl, fun _ _ => rfl⟩ fun _ _ => rfl
  obtain ⟨rfl, hbroker, hsize, hown, -⟩ := hloaded
  obtain ⟨hrs, hk⟩ := hall (hbroker ▸ .refl _ _)
  rw [Broker.unread_eq, Subscription.unreadAll_settled] at hk
  rw [Subscription.unreadAll_settled] at hrs
  subst hrs hk
  exact ⟨_, _, restore_apply h.toCanRestore hrun h.opened rfl,
    ⟨h.opened, rfl, rfl, hbroker, hsize, hown⟩⟩

/-- Any number of restorations. -/
theorem restores_restored (h : s.CanRestoreCache c l) (hcache : l.cache < w.caches.size) (n : Nat) :
    ∃ c' w', restores n s w =
        ((.ok (List.replicate n (recalledIn c.maxPollRecords (s.recalled w))),
          { s with read := .apart c' l }), w') ∧
      w'.caches.get l.cache = (w.caches.get l.cache).addAll
        (List.replicate n (Record.entries (s.recalled w))).flatten := by
  induction n generalizing s c w with
  | zero =>
    have hread : s = { s with read := .apart c l } := by rw [← h.read]
    exact ⟨c, w, by rw [← hread]; rfl, rfl⟩
  | succ n ih =>
    obtain ⟨c₁, w₁, hfirst, hr⟩ := restore_restored h hcache
    obtain ⟨c₂, w₂, hrest, hown⟩ := ih (hr.canRestoreCache h) (hr.size ▸ hcache)
    rw [hr.recalled_eq h] at hrest hown
    rw [hr.maxPollRecords] at hrest
    refine ⟨c₂, w₂, ?_, ?_⟩
    · rw [restores, Try.bind_of_ok hfirst, Try.bind_of_ok hrest]
      rfl
    · rw [hown, hr.own, ← RecencyCache.addAll_append, List.replicate_succ, List.flatten_cons]

/-- To restore a cache any number of times amounts to the same each time, and leaves in the cache
what is left there the first time. -/
theorem restores_idempotent (h : s.CanRestoreCache c l) (hcache : l.cache < w.caches.size)
    (hbounded : (w.caches.get l.cache).Bounded) {n : Nat} (hn : 1 ≤ n) :
    ∃ s₁ w₁ s' w',
      restore s w = ((.ok (recalledIn c.maxPollRecords (s.recalled w)), s₁), w₁) ∧
      restores n s w =
        ((.ok (List.replicate n (recalledIn c.maxPollRecords (s.recalled w))), s'), w') ∧
      (w'.caches.get l.cache).entries = (w₁.caches.get l.cache).entries := by
  obtain ⟨n, rfl⟩ := Nat.exists_eq_add_of_le' hn
  obtain ⟨c₁, w₁, hfirst, hr⟩ := restore_restored h hcache
  obtain ⟨c', w', hall, hown⟩ := restores_restored h hcache (n + 1)
  refine ⟨_, w₁, _, w', hfirst, hall, ?_⟩
  rw [hown, hr.own, RecencyCache.entries_addAll_replicate hbounded]

/-- Three positions of two streams, and a cache that holds one of a third.  It may hold two. -/
def threePositions : Shared where
  broker :=
    ((((default : Broker).push "t" ⟨Position.key ⟨"a", 1⟩, Position.value ⟨"a", 1⟩⟩).push "t"
      ⟨Position.key ⟨"b", 2⟩, Position.value ⟨"b", 2⟩⟩).push "t"
      ⟨Position.key ⟨"a", 3⟩, Position.value ⟨"a", 3⟩⟩)
  caches := ⟨[(RecencyCache.new 2).add "x" 0]⟩

/-- The last two are restored three times. -/
theorem restores_idempotent_of_three :
    ∃ s₁ w₁ s' w',
      restore (simple "t" 0) threePositions = ((.ok ⟨1, 2, false⟩, s₁), w₁) ∧
      restores 3 (simple "t" 0) threePositions =
        ((.ok [⟨1, 2, false⟩, ⟨1, 2, false⟩, ⟨1, 2, false⟩], s'), w') ∧
      (w'.caches.get 0).entries = (w₁.caches.get 0).entries := by
  have hrecalled : ((simple "t" 0).recalled threePositions).length = 2 := by decide +kernel
  have hsum : recalledIn ({} : Consumer).maxPollRecords ((simple "t" 0).recalled threePositions) =
      ⟨1, 2, false⟩ := by
    rw [recalledIn, hrecalled]
    decide
  have hagain := restores_idempotent (c := {}) (s := simple "t" 0) (w := threePositions)
    (canRestoreCache_ready {} 0 0 0 Nat.one_pos) Nat.one_pos
    (RecencyCache.bounded_add (.new 2) "x" 0) (n := 3) (by decide)
  rw [hsum] at hagain
  exact hagain

end PositionLog.Checkpointer
