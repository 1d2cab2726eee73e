import PositionLog.Proofs.Recovery.Basic
import PositionLog.Proofs.Recency.Changes

/-!
# What a loader makes of a record

A position that was published is loaded as it was, and no other stream has the same key.  Any other
bytes can be loaded too: every key is read as some text, and a value is an offset exactly if it is
the eight bytes that are written for it.
-/

namespace PositionLog

namespace Bytes

theorem toNat_append_singleton (b : Bytes) (x : UInt8) :
    toNat (b ++ [x]) = toNat b * 256 + x.toNat :=
  List.foldl_concat ..

theorem toNat_lt (b : Bytes) : b.toNat < 256 ^ b.length := by
  induction b using List.reverseRecOn with
  | nil => exact Nat.one_pos
  | append_singleton b x ih =>
    have hx := x.toNat_lt
    rw [toNat_append_singleton, List.length_append, List.length_singleton, pow_succ]
    omega

/-- Bytes are told by how many they are and by what they are worth. -/
theorem eq_of_toNat_eq {b c : Bytes} (hlength : b.length = c.length) (h : b.toNat = c.toNat) :
    b = c := by
  induction b using List.reverseRecOn generalizing c with
  | nil => exact (List.length_eq_zero_iff.mp hlength.symm).symm
  | append_singleton b x ih =>
    cases c using List.reverseRecOn with
    | nil =>
      rw [List.length_append] at hlength
      cases hlength
    | append_singleton c y =>
      rw [List.length_append, List.length_append] at hlength
      rw [toNat_append_singleton, toNat_append_singleton] at h
      have hx := x.toNat_lt
      have hy := y.toNat_lt
      have hbc : b = c := ih (Nat.add_right_cancel hlength) (by omega)
      have hxy : x = y := UInt8.toNat_inj.mp (by omega)
      rw [hbc, hxy]

/-- Only the bytes that are written for a signed word are read as it. -/
theorem toInt64?_eq_some_iff {b : Bytes} {i : Int64} :
    b.toInt64? = some i ↔ b = Payload.toBytes i := by
  constructor
  · intro h
    have hlength : b.length = 8 := by
      by_contra hne
      rw [toInt64?_eq_none.mpr hne] at h
      cases h
    have hlt : b.toNat < 256 ^ 8 := hlength ▸ b.toNat_lt
    rw [toInt64?, if_pos hlength] at h
    obtain rfl : (UInt64.ofNat b.toNat).toInt64 = i := Option.some.inj h
    change b = ofNat 8 (UInt64.ofNat b.toNat).toNat
    apply eq_of_toNat_eq (hlength.trans (length_ofNat 8 _).symm)
    rw [toNat_ofNat, UInt64.toNat_ofNat_of_lt' hlt, Nat.mod_eq_of_lt hlt]
  · rintro rfl
    exact toInt64?_toBytes i

end Bytes

namespace RecencyCache

/-- An addition is the newest entry. -/
theorem getLast?_add (c : RecencyCache) (key : String) (value : Int64) :
    (c.add key value).entries.getLast? = some (key, value) := by
  rw [entries_add]
  exact (getLast?_newest c.capacity _).trans List.getLast?_concat

/-- An addition changes nothing exactly if it is the newest entry already. -/
theorem Bounded.entries_add_eq_self_iff {c : RecencyCache} (h : c.Bounded) (key : String)
    (value : Int64) :
    (c.add key value).entries = c.entries ↔ c.entries.getLast? = some (key, value) := by
  constructor
  · intro hsame
    rw [← hsame, getLast?_add]
  · intro hlast
    obtain ⟨es, hes⟩ := List.getLast?_eq_some_iff.mp hlast
    have hkeys : (es.map (·.1) ++ [key]).Nodup := by
      have hnodup := c.nodup_keys
      rwa [hes, List.map_append] at hnodup
    have hothers : ∀ e ∈ es, e.1 ≠ key := by
      rintro e he rfl
      exact (List.nodup_append.mp hkeys).2.2 _ (List.mem_map_of_mem he) _ List.mem_cons_self rfl
    have hfilter : c.entries.filter (·.1 ≠ key) = es := by
      rw [hes, List.filter_append, List.filter_cons_of_neg (by simp), List.filter_nil,
        List.append_nil]
      exact List.filter_eq_self.mpr fun e he => decide_eq_true (hothers e he)
    rw [entries_add, hfilter, ← hes]
    dsimp only
    rw [length_entries, h, List.drop_zero]

end RecencyCache

open RecencyCache (Change changed)

namespace Loader

variable {P : Type} [LogProducer P] {key value : Bytes}

/-- A position that is read is added, and the record is counted. -/
theorem deserialize_of_some {p : Position} (h : Position.ofRecord? key value = some p) (l : Loader)
    (write : Option (WritePath P)) (w : Shared) :
    (Deserializer.deserialize key value : Act (Intake Loader P) Bool)
        { deserializer := l, write } w =
      ((l.stopAt != some ((w.counters.modify l.counter (· + 1)).get l.counter),
        { deserializer := l, write }),
        { w with
          caches := w.caches.modify l.cache (·.add p.stream p.offset)
          counters := w.counters.modify l.counter (· + 1) }) := by
  have hposition : (⟨0, 0, key, value⟩ : Record).position? = some p := h
  have hgiven := l.deserialize_eq write ⟨0, 0, key, value⟩ w
  rwa [cachesAfter, hposition] at hgiven

/-- If none is read, the record is counted all the same. -/
theorem deserialize_of_none (h : Position.ofRecord? key value = none) (l : Loader)
    (write : Option (WritePath P)) (w : Shared) :
    (Deserializer.deserialize key value : Act (Intake Loader P) Bool)
        { deserializer := l, write } w =
      ((l.stopAt != some ((w.counters.modify l.counter (· + 1)).get l.counter),
        { deserializer := l, write }),
        { w with counters := w.counters.modify l.counter (· + 1) }) := by
  have hposition : (⟨0, 0, key, value⟩ : Record).position? = none := h
  have hgiven := l.deserialize_eq write ⟨0, 0, key, value⟩ w
  rwa [cachesAfter, hposition] at hgiven

/-- Any record is counted, and changes the cache of the loader alone: not at all if its value is no
offset or its entry is the newest already, and else always. -/
theorem deserialize_arbitrary (key value : Bytes) (l : Loader) (write : Option (WritePath P))
    {w : Shared} (hcache : l.cache < w.caches.size)
    (hbounded : (w.caches.get l.cache).Bounded) :
    ∃ caches, (Deserializer.deserialize key value : Act (Intake Loader P) Bool)
        { deserializer := l, write } w =
      ((l.stopAt != some ((w.counters.modify l.counter (· + 1)).get l.counter),
        { deserializer := l, write }),
        { w with caches, counters := w.counters.modify l.counter (· + 1) }) ∧
      (∀ j ≠ l.cache, caches.get j = w.caches.get j) ∧
      ((caches.get l.cache).entries = (w.caches.get l.cache).entries ↔
        value.length ≠ 8 ∨ ∃ i, value = Payload.toBytes i ∧
          (w.caches.get l.cache).entries.getLast? = some (Text.Utf8.decode key, i)) := by
  cases hvalue : value.toInt64? with
  | none =>
    have hnone : Position.ofRecord? key value = none := by
      rw [Position.ofRecord?, hvalue, Option.map_none]
    exact ⟨w.caches, deserialize_of_none hnone l write w, fun _ _ => rfl,
      iff_of_true rfl (.inl (Bytes.toInt64?_eq_none.mp hvalue))⟩
  | some i =>
    have hsome : Position.ofRecord? key value = some ⟨Text.Utf8.decode key, i⟩ := by
      rw [Position.ofRecord?, hvalue, Option.map_some]
    have hbytes : value = Payload.toBytes i := Bytes.toInt64?_eq_some_iff.mp hvalue
    have hlength : value.length = 8 := by
      rw [hbytes]
      exact Bytes.length_ofNat 8 _
    refine ⟨_, deserialize_of_some hsome l write w, fun j hj => Pool.get_modify_of_ne _ hj _, ?_⟩
    rw [Pool.get_modify_self w.caches hcache, hbounded.entries_add_eq_self_iff]
    constructor
    · intro hlast
      exact .inr ⟨i, hbytes, hlast⟩
    · rintro (hother | ⟨j, hj, hlast⟩)
      · exact absurd hlength hother
      · obtain rfl : j = i := by
          rw [hbytes] at hj
          have hread := Bytes.toInt64?_eq_some_iff.mpr hj
          rw [Bytes.toInt64?_toBytes] at hread
          exact (Option.some.inj hread).symm
        exact hlast

end Loader

namespace Position

open Broker (Producer)

/-- The record of a position that was published is loaded as that position: its entry is added to
the cache, and the record is counted. -/
theorem load_published {F C D P : Type} [LogProducer P] {s : Checkpointer F Producer C D}
    (h : s.CanPublish) (p : Position) {w : Shared} (hacc : w.broker.Accepts) :
    ∃ w₁ r, s.publish p w = ((.ok (), s), w₁) ∧
      (∀ t k, w₁.broker.records t k = w.broker.records t k ++
        if t = s.topic ∧ w.broker.route r.key = k then [r] else []) ∧
      ∀ (l : Loader) (write : Option (WritePath P)) (w' : Shared),
        (Deserializer.deserialize r.key r.value : Act (Intake Loader P) Bool) ⟨l, write⟩ w' =
          ((l.stopAt != some ((w'.counters.modify l.counter (· + 1)).get l.counter), ⟨l, write⟩),
            { w' with
              caches := w'.caches.modify l.cache (·.add p.stream p.offset)
              counters := w'.counters.modify l.counter (· + 1) }) := by
  obtain ⟨notices, losses, hpublish⟩ := Checkpointer.publish_apply h p w
  let home := w.broker.route p.key
  refine ⟨_, .ofEntry home (p.toEntry, (w.broker.entries s.topic home).size), hpublish, ?_,
    Loader.deserialize_of_some (ofRecord?_key_value p)⟩
  intro t k
  rw [broker_published, Broker.offer, if_pos hacc, Broker.records_push]
  apply congrArg (w.broker.records t k ++ ·)
  apply ite_congr rfl _ fun _ => rfl
  rintro ⟨-, rfl⟩
  rfl

/-- Keys are read back as the streams that they are of, so no two streams share one, and values as
the offsets that they were written for; so a position that was published is loaded as it was.  Bytes
that were never published are loaded without fail too: they are an offset exactly if they are what
is written for it, and none exactly if they are not eight; the record is counted, and the cache
stays the same exactly if the value is no offset or its entry is the newest already. -/
theorem loaded_as_published :
    (∀ p q : Position, Text.Utf8.decode p.key = p.stream ∧ p.value.toInt64? = some p.offset ∧
      (p.key = q.key ↔ p.stream = q.stream)) ∧
    (∀ (b : Bytes) (i : Int64), (b.toInt64? = some i ↔ b = Payload.toBytes i) ∧
      (b.toInt64? = none ↔ b.length ≠ 8)) ∧
    ∀ {P : Type} [LogProducer P] (l : Loader) (write : Option (WritePath P)) {w : Shared},
      l.cache < w.caches.size → l.counter < w.counters.size →
      let give (key value : Bytes) :=
        (Deserializer.deserialize key value : Act (Intake Loader P) Bool) ⟨l, write⟩ w
      let wanted := l.stopAt != some (w.counters.get l.counter + 1)
      let counters := w.counters.modify l.counter (· + 1)
      counters.get l.counter = w.counters.get l.counter + 1 ∧
      (∀ {F C D : Type} {s : Checkpointer F Producer C D} (p : Position) {w₀ : Shared},
        s.CanPublish → w₀.broker.Accepts →
        ∃ w₁ r, s.publish p w₀ = ((.ok (), s), w₁) ∧
          (∀ t k, w₁.broker.records t k = w₀.broker.records t k ++
            if t = s.topic ∧ w₀.broker.route r.key = k then [r] else []) ∧
          give r.key r.value = ((wanted, ⟨l, write⟩), { w with
            caches := w.caches.modify l.cache (·.add p.stream p.offset), counters })) ∧
      ∀ (capacity : Int) (hist : List Change), w.caches.get l.cache = changed capacity hist →
        ∀ key value : Bytes, ∃ caches,
          give key value = ((wanted, ⟨l, write⟩), { w with caches, counters }) ∧
          (∀ j ≠ l.cache, caches.get j = w.caches.get j) ∧
          ((caches.get l.cache).entries = (w.caches.get l.cache).entries ↔
            value.length ≠ 8 ∨ ∃ i, value = Payload.toBytes i ∧
              (w.caches.get l.cache).entries.getLast? = some (Text.Utf8.decode key, i)) := by
  refine ⟨fun p q => ⟨Text.Utf8.decode_encode p.stream, Bytes.toInt64?_toBytes p.offset,
    key_eq_key_iff⟩, fun b i => ⟨Bytes.toInt64?_eq_some_iff, Bytes.toInt64?_eq_none⟩, ?_⟩
  intro P _ l write w hcache hcounter give wanted counters
  have hcount : counters.get l.counter = w.counters.get l.counter + 1 :=
    Pool.get_modify_self w.counters hcounter _
  refine ⟨hcount, ?_, ?_⟩
  · intro F C D s p w₀ hs hacc
    obtain ⟨w₁, r, hpublish, hrecords, hload⟩ := load_published (P := P) hs p hacc
    have hgiven := hload l write w
    rw [hcount] at hgiven
    exact ⟨w₁, r, hpublish, hrecords, hgiven⟩
  · intro capacity hist hhist key value
    have hbounded : (w.caches.get l.cache).Bounded := hhist ▸ RecencyCache.bounded_changed ..
    have hgiven := Loader.deserialize_arbitrary key value l write hcache hbounded
    rwa [hcount] at hgiven

/-- A cache without entries, and a loader that has seen nothing. -/
def unloaded : Shared := { Shared.start default 1 0 with counters := ⟨[0]⟩ }

/-- A stream with letters of two, three and four bytes is loaded.  A record of broken bytes is seen,
and the cache stays empty. -/
theorem loaded_as_published_of_letters :
    let l : Loader := { cache := 0, counter := 0, stopAt := some 2 }
    let i : Intake Loader Producer := { deserializer := l }
    ∃ w₁ r caches,
      Checkpointer.publish ⟨"é字𝄞", -1⟩ (Checkpointer.simple "t" 0) unloaded =
        ((.ok (), Checkpointer.simple "t" 0), w₁) ∧
      w₁.broker.records "t" 0 = [r] ∧
      (Deserializer.deserialize r.key r.value : Act (Intake Loader Producer) Bool) i unloaded =
        ((true, i), { unloaded with
          caches := unloaded.caches.modify 0 (·.add "é字𝄞" (-1)), counters := ⟨[1]⟩ }) ∧
      (Deserializer.deserialize [0xE5, 0xAD] [1] : Act (Intake Loader Producer) Bool) i unloaded =
        ((true, i), { unloaded with caches, counters := ⟨[1]⟩ }) ∧
      (caches.get 0).entries = [] := by
  intro l i
  obtain ⟨-, -, hloads⟩ := loaded_as_published
  obtain ⟨-, hpublished, hany⟩ := hloads (P := Producer) (w := unloaded) l none Nat.one_pos
    Nat.one_pos
  have haccepts : unloaded.broker.Accepts := ⟨rfl, rfl⟩
  obtain ⟨w₁, r, hpublish, hrecords, hload⟩ := hpublished (s := Checkpointer.simple "t" 0)
    ⟨"é字𝄞", -1⟩ (Checkpointer.canPublish_ready ..) haccepts
  obtain ⟨caches, hbroken, -, hsame⟩ := hany 0 [] rfl [0xE5, 0xAD] [1]
  refine ⟨w₁, r, caches, hpublish, ?_, hload, hbroken, ?_⟩
  · have hroute : unloaded.broker.route r.key = 0 :=
      Nat.lt_one_iff.mp (Broker.route_lt _ r.key)
    rw [hrecords, if_pos ⟨rfl, hroute⟩]
    rfl
  · exact (hsame.mpr (.inl (by decide))).trans (RecencyCache.entries_new 0)

end Position

end PositionLog
