import PositionLog.Proofs.Checkpointer.Restore
import PositionLog.Proofs.Broker.Recall

/-!
# What a loader loads

A loader adds to its cache what it is given, and to nothing else.  So a cache that was filled by a
replay holds what it would hold if the positions read had been added to it one by one.
-/

namespace PositionLog

namespace Loader

variable {P : Type}

/-- Between two records of a replay, a loader has added what it was given to its cache, and done
nothing else that matters. -/
structure Loaded (l : Loader) (write : Option (WritePath P)) (w₀ : Shared) (rs : List Record)
    (i : Intake Loader P) (w : Shared) : Prop where
  intake : i = { deserializer := l, write }
  broker : w.broker = w₀.broker
  size : w.caches.size = w₀.caches.size
  own : w.caches.get l.cache = (w₀.caches.get l.cache).addAll (Record.entries rs)
  others : ∀ j ≠ l.cache, w.caches.get j = w₀.caches.get j

variable {l : Loader}

/-- The caches after a loader was given a record. -/
def cachesAfter (l : Loader) (caches : Pool RecencyCache) (r : Record) : Pool RecencyCache :=
  match r.position? with
  | none => caches
  | some p => caches.modify l.cache (·.add p.stream p.offset)

/-- A loader counts the record and adds its position, whether it asks to stop or not. -/
theorem load_eq (l : Loader) (r : Record) (w : Shared) :
    l.load r.key r.value w =
      (l.stopAt != some ((w.counters.modify l.counter (· + 1)).get l.counter),
        { w with
          caches := l.cachesAfter w.caches r
          counters := w.counters.modify l.counter (· + 1) }) := by
  simp only [load, cachesAfter, Shared.bind_apply, Shared.modify_apply, Record.position?]
  cases Position.ofRecord? r.key r.value <;> simp [seen]

theorem load_apply (r : Record) (w : Shared) :
    ∃ counters, l.load r.key r.value w =
      (l.stopAt != some (counters.get l.counter),
        { w with caches := l.cachesAfter w.caches r, counters }) :=
  ⟨_, l.load_eq r w⟩

theorem deserialize_eq [LogProducer P] (l : Loader) (write : Option (WritePath P)) (r : Record)
    (w : Shared) :
    (Deserializer.deserialize r.key r.value : Act (Intake Loader P) Bool)
        { deserializer := l, write } w =
      ((l.stopAt != some ((w.counters.modify l.counter (· + 1)).get l.counter),
        { deserializer := l, write }),
        { w with
          caches := l.cachesAfter w.caches r
          counters := w.counters.modify l.counter (· + 1) }) :=
  (Act.bind_of_eq (Act.get_apply _ w)).trans (Act.lift_of_eq (l.load_eq r w))

theorem size_cachesAfter (caches : Pool RecencyCache) (r : Record) :
    (l.cachesAfter caches r).size = caches.size := by
  unfold cachesAfter
  cases r.position? with
  | none => rfl
  | some p => exact Pool.size_modify ..

theorem get_cachesAfter_self {caches : Pool RecencyCache} (h : l.cache < caches.size) (r : Record) :
    (l.cachesAfter caches r).get l.cache = (caches.get l.cache).addAll (Record.entries [r]) := by
  unfold cachesAfter Record.entries
  rw [List.filterMap_cons]
  cases r.position? with
  | none => rfl
  | some p => exact Pool.get_modify_self caches h _

theorem get_cachesAfter_of_ne (caches : Pool RecencyCache) {j : Nat} (h : j ≠ l.cache)
    (r : Record) : (l.cachesAfter caches r).get j = caches.get j := by
  unfold cachesAfter
  cases r.position? with
  | none => rfl
  | some p => exact Pool.get_modify_of_ne caches h _

/-- A loader that never asks to stop always wants the next record. -/
theorem deserialize_apply [LogProducer P] (hstop : l.stopAt = none) (write : Option (WritePath P))
    (r : Record) (w : Shared) :
    ∃ counters, (Deserializer.deserialize r.key r.value : Act (Intake Loader P) Bool)
        { deserializer := l, write } w =
      ((true, { deserializer := l, write }),
        { w with caches := l.cachesAfter w.caches r, counters }) := by
  refine ⟨w.counters.modify l.counter (· + 1), ?_⟩
  rw [deserialize_eq, hstop]
  rfl

theorem keeps_loaded [LogProducer P] (hstop : l.stopAt = none) (write : Option (WritePath P))
    {w₀ : Shared} (hcache : l.cache < w₀.caches.size) (topic : String) (start : Nat → Nat) :
    Replay.Keeps topic start (l.Loaded write w₀) where
  told n h := ⟨h.intake, h.broker, h.size, h.own, h.others⟩
  taken {rs r i w} h _ := by
    obtain ⟨rfl, hbroker, hsize, hown, hothers⟩ := h
    obtain ⟨counters, hdes⟩ := deserialize_apply hstop write r w
    refine ⟨_, _, hdes, ⟨rfl, hbroker, ?_, ?_, ?_⟩, .refl _ _, Nat.le_refl _⟩
    · exact (size_cachesAfter w.caches r).trans hsize
    · rw [Record.entries_append, RecencyCache.addAll_append, ← hown]
      exact get_cachesAfter_self (hsize ▸ hcache) r
    · intro j hj
      exact (get_cachesAfter_of_ne w.caches hj r).trans (hothers j hj)

end Loader

open Broker (Consumer) in
/-- A checkpointer with a loader reads records back into the cache of the loader. -/
theorem Checkpointer.restore_loader {F P : Type} [LogProducer P]
    {s : Checkpointer F P Consumer Loader} {c : Consumer} {l : Loader} (h : s.CanRestore c l)
    (hstop : l.stopAt = none) {w : Shared} (hcache : l.cache < w.caches.size) :
    ∃ k rs c' w',
      restore s w = ((.ok ⟨k, rs.length, false⟩, { s with read := .apart c' l }), w') ∧
      w'.broker = w.broker ∧
      w'.broker.ReadAll s.topic (w.broker.startOf s.topic (s.depth w)) rs ∧
      w'.caches.get l.cache = (w.caches.get l.cache).addAll (Record.entries rs) ∧
      ∀ j ≠ l.cache, w'.caches.get j = w.caches.get j := by
  obtain ⟨k, rs, i, c', w', hrestore, hloaded, -, hall, -⟩ := restore_spec h w
    (Loader.keeps_loaded hstop (some s.write) hcache s.topic _) ⟨rfl, rfl, rfl, rfl, fun _ _ => rfl⟩
  obtain ⟨rfl, hbroker, -, hown, hothers⟩ := hloaded
  exact ⟨k, rs, c', w', hrestore, hbroker, hall, hown, hothers⟩

end PositionLog
