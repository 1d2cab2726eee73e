import PositionLog.Proofs.Recovery.Basic

/-!
# Restoring what several checkpointers published

Several checkpointers publish on one topic, in any order, while the broker comes and goes.  What it
refuses is lost, but what it takes is in order; so a cache that is restored holds no value but the
last one taken for its key.
-/

namespace PositionLog

open Broker (Consumer Producer)

/-- What can happen to a topic while it is written. -/
inductive Event where
  | publish (who : Nat) (p : Position)
  | setUnavailable (on : Bool)
  | setQueueFull (on : Bool)
deriving DecidableEq, Repr

variable {F C D : Type}

namespace Event

/-- Carries out what happens, with several checkpointers. -/
def run : Event → Act (List (Checkpointer F Producer C D)) Unit
  | publish who p => do
    match (← get)[who]? with
    | none => pure ()
    | some s =>
      let (_, s) ← (s.publish p : StateM Shared _)
      modify (·.set who s)
  | setUnavailable on => do
    let _ ← Shared.command (.setUnavailable on)
  | setQueueFull on => do
    let _ ← Shared.command (.setQueueFull on)

/-- The positions that the broker takes. -/
def taken (count : Nat) (w : Shared) : Event → List Position
  | publish who p => if who < count ∧ w.broker.Accepts then [p] else []
  | _ => []

/-- The positions that the broker takes while all this happens. -/
def allTaken (fleet : List (Checkpointer F Producer C D)) (w : Shared) : List Event → List Position
  | [] => []
  | e :: es => e.taken fleet.length w ++ allTaken (e.run fleet w).1.2 (e.run fleet w).2 es

end Event

/-- Several checkpointers can publish on a topic, and none of them mirrors in this cache. -/
def CanPublishApart (fleet : List (Checkpointer F Producer C D)) (topic : String) (j : Nat) :
    Prop :=
  ∀ s ∈ fleet, s.CanPublish ∧ s.topic = topic ∧ s.write.cache ≠ some j

namespace Event

variable {fleet : List (Checkpointer F Producer C D)} {topic : String} {j : Nat}

/-- What was taken is on the topic, and a cache that nobody mirrors in is as it was. -/
structure Result (topic : String) (j : Nat) (ps : List Position) (w w' : Shared) : Prop extends
    Grown topic ps w w' where
  cache : j < w.caches.size → w'.caches.get j = w.caches.get j

theorem run_publish_of_none {who : Nat} (h : fleet[who]? = none) (p : Position) (w : Shared) :
    (publish who p).run fleet w = (((), fleet), w) := by
  rw [run, Act.bind_of_eq (Act.get_apply fleet w), h]
  rfl

/-- A checkpointer that publishes is itself not changed. -/
theorem run_publish_of_some {who : Nat} {s : Checkpointer F Producer C D}
    (h : fleet[who]? = some s) (hs : s.CanPublish) (p : Position) (w : Shared) :
    ∃ n l, (publish who p).run fleet w =
      (((), fleet), w.published s.topic s.write.cache p n l) := by
  obtain ⟨n, l, happly⟩ := Checkpointer.publish_apply hs p w
  have hset : fleet.set who s = fleet := set_eq_self_of_getElem? h
  refine ⟨n, l, ?_⟩
  rw [run, Act.bind_of_eq (Act.get_apply fleet w), h]
  apply (Act.bind_of_eq (Act.lift_apply (s.publish p : StateM Shared _) fleet w)).trans
  rw [happly]
  dsimp only
  rw [Act.modify_apply, hset]

/-- One event. -/
theorem run_spec (hfleet : CanPublishApart fleet topic j) (e : Event) (w : Shared) :
    ∃ w', e.run fleet w = (((), fleet), w') ∧ Result topic j (e.taken fleet.length w) w w' := by
  cases e with
  | publish who p =>
    cases hwho : fleet[who]? with
    | none =>
      have hcount : ¬ (who < fleet.length ∧ w.broker.Accepts) := by
        rintro ⟨hlt, -⟩
        exact absurd (List.getElem?_eq_none_iff.mp hwho) (Nat.not_le.mpr hlt)
      rw [taken, if_neg hcount]
      exact ⟨w, run_publish_of_none hwho p w, .of_log_eq rfl rfl rfl, fun _ => rfl⟩
    | some s =>
      obtain ⟨hpublish, rfl, hcache⟩ := hfleet s (List.mem_of_getElem? hwho)
      obtain ⟨n, l, hrun⟩ := run_publish_of_some hwho hpublish p w
      have hlt := (List.getElem?_eq_some_iff.mp hwho).1
      rw [taken, if_congr (and_iff_right hlt) rfl rfl]
      refine ⟨_, hrun, Grown.published s.topic s.write.cache p w n l, fun hj => ?_⟩
      rw [caches_published, Pool.get_mirror _ _ hj, if_neg hcache]
  | setUnavailable on => exact ⟨_, rfl, .of_log_eq rfl rfl rfl, fun _ => rfl⟩
  | setQueueFull on => exact ⟨_, rfl, .of_log_eq rfl rfl rfl, fun _ => rfl⟩

/-- All events, one after the other. -/
theorem forM_run (hfleet : CanPublishApart fleet topic j) (es : List Event) (w : Shared) :
    ∃ w', es.forM run fleet w = (((), fleet), w') ∧
      Result topic j (allTaken fleet w es) w w' := by
  induction es generalizing w with
  | nil => exact ⟨w, rfl, .of_log_eq rfl rfl rfl, fun _ => rfl⟩
  | cons e es ih =>
    obtain ⟨w₁, hfirst, hresult₁⟩ := run_spec hfleet e w
    rcases ih w₁ with ⟨w₂, hrest, hresult₂⟩
    refine ⟨w₂, (Act.bind_of_eq hfirst).trans hrest, ?_, fun hj => ?_⟩
    · rw [allTaken, hfirst]
      exact hresult₁.toGrown.trans hresult₂.toGrown
    · rw [hresult₂.cache (hresult₁.size ▸ hj), hresult₁.cache hj]

end Event

namespace Checkpointer

variable {F' P : Type} [LogProducer P] {t : Checkpointer F' P Consumer Loader} {c : Consumer}
  {l : Loader} {fleet : List (Checkpointer F Producer C D)} {w : Shared} {capacity : Int64}

/-- A cache that is restored holds each key at most once, and with the value that was taken last for
it.  It holds all keys if it is unbounded, or the topic has no more records than it may hold. -/
theorem restored_latest_taken (hfleet : CanPublishApart fleet t.topic l.cache)
    (ht : t.CanRestoreCache c l) (hempty : w.broker.recordCount t.topic = 0)
    (hlt : l.cache < w.caches.size) (hnew : (w.caches.get l.cache).IsNew capacity)
    (es : List Event) :
    ∃ w₁ k n t' w₂,
      es.forM Event.run fleet w = (((), fleet), w₁) ∧
      restore t w₁ = ((.ok ⟨k, n, false⟩, t'), w₂) ∧
      (∀ stream value, (stream, value) ∈ (w₂.caches.get l.cache).entries →
        RecencyCache.value? ((Event.allTaken fleet w es).map Position.entry) stream =
          some value) ∧
      ((w₂.caches.get l.cache).entries.map (·.1)).Nodup ∧
      (capacity.toInt ≤ 0 ∨ w₁.broker.recordCount t.topic ≤ capacity.toInt →
        ∀ p ∈ Event.allTaken fleet w es,
          p.stream ∈ (w₂.caches.get l.cache).entries.map (·.1)) := by
  obtain ⟨w₁, hrun, hresult⟩ := Event.forM_run hfleet es w
  have hlog : w₁.broker.Holds t.topic (Event.allTaken fleet w es) :=
    hresult.holds [] (Broker.holds_nil hempty)
  obtain ⟨k, rs, t', w₂, hrestore, hown, hrecalled, -⟩ :=
    restore_new ht hlog (hresult.size ▸ hlt) (hresult.cache hlt ▸ hnew)
  refine ⟨w₁, k, rs.length, t', w₂, hrun, hrestore, ?_, RecencyCache.nodup_keys _, ?_⟩
  · intro stream value hmem
    rw [hown] at hmem
    have hlatest := (RecencyCache.newest_suffix _ _).subset hmem
    exact (hrecalled.value?_eq_some_iff.mp (RecencyCache.mem_latest.mp hlatest)).1
  · intro hroom p hp
    rw [hown]
    refine hrecalled.mem_newest (fun n hn => ?_) hp
    rw [hlog.recordCount] at hroom
    rcases hroom with hroom | hroom
    · exact RecencyCache.excess_of_nonpos hroom n
    · exact RecencyCache.excess_of_le (by omega)

/-- The last value that the broker took is restored, not the last one that was published. -/
theorem restored_latest_taken_of_refused :
    ∃ w₁ k n t' w₂,
      [.publish 0 ⟨"a", 1⟩, .publish 1 ⟨"a", 2⟩, .setUnavailable true, .publish 0 ⟨"a", 3⟩,
          .setUnavailable false].forM Event.run [simple "t" 0, simple "t" 1] (.start {} 3 0) =
        (((), [simple "t" 0, simple "t" 1]), w₁) ∧
      restore (simple "t" 2) w₁ = ((.ok ⟨k, n, false⟩, t'), w₂) ∧
      "a" ∈ (w₂.caches.get 2).entries.map (·.1) ∧
      ∀ value, ("a", value) ∈ (w₂.caches.get 2).entries → value = 2 := by
  have hfleet : CanPublishApart [simple "t" 0, simple "t" 1] "t" 2 := by
    intro s hs
    rcases List.mem_pair.mp hs with rfl | rfl
    · exact ⟨canPublish_ready .., rfl, nofun⟩
    · exact ⟨canPublish_ready .., rfl, nofun⟩
  obtain ⟨w₁, k, n, t', w₂, hrun, hrestore, hlatest, -, hall⟩ :=
    restored_latest_taken (t := simple "t" 2) (w := .start {} 3 0) hfleet
      (canRestoreCache_ready {} 2 2 2 Nat.one_pos) rfl (by decide)
      (Shared.isNew_start {} 0 (by decide))
      [.publish 0 ⟨"a", 1⟩, .publish 1 ⟨"a", 2⟩, .setUnavailable true, .publish 0 ⟨"a", 3⟩,
        .setUnavailable false]
  have htaken : Event.allTaken [simple "t" 0, simple "t" 1] (.start {} 3 0)
      [.publish 0 ⟨"a", 1⟩, .publish 1 ⟨"a", 2⟩, .setUnavailable true, .publish 0 ⟨"a", 3⟩,
        .setUnavailable false] = [⟨"a", 1⟩, ⟨"a", 2⟩] := rfl
  rw [htaken] at hlatest hall
  refine ⟨w₁, k, n, t', w₂, hrun, hrestore, hall (.inl (by decide)) ⟨"a", 1⟩ List.mem_cons_self,
    fun value hmem => ?_⟩
  exact (Option.some.inj (hlatest "a" value hmem)).symm

end Checkpointer

end PositionLog
