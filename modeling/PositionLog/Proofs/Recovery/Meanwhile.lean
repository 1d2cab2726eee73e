import PositionLog.Proofs.Recovery.Fleet
import PositionLog.Proofs.Recovery.Settled

/-!
# Publishing during a replay

Positions are published while a checkpointer restores its cache, by itself and by others, from
within its deserializer.  They are read back by the same replay, each record is read once and in
order, and in the end no older record has overwritten a newer value.
-/

namespace PositionLog

open Broker (Consumer Producer)
open RecencyCache (Agree)

/-! ## The deserializer -/

/-- A loader that lets positions be published before it takes a record. -/
structure Busy (F C D : Type) where
  loader : Loader
  /-- The checkpointers that publish besides the one that reads. -/
  others : List (Checkpointer F Producer C D)
  /-- What is published before each record to come, and by which of the others, if it is not by the
  one that reads. -/
  schedule : List (List (Option Nat × Position))
  /-- The records taken. -/
  seen : List Entry := []

namespace Busy

variable {F C D P : Type} [LogProducer P]

/-- Publishes a position. -/
def call : Option Nat × Position → Act (Intake (Busy F C D) P) Unit
  | (none, p) => Act.on Intake.write (fun write s => { s with write }) do
    let _ ← Act.onSome (WritePath.publish p).run
  | (some who, p) =>
    Act.on (fun s => s.deserializer.others)
      (fun others s => { s with deserializer := { s.deserializer with others } })
      (Event.publish who p).run

def deserialize (key value : Bytes) : Act (Intake (Busy F C D) P) Bool := do
  let d := (← get).deserializer
  (d.schedule.headD []).forM call
  let _ ← (d.loader.load key value : StateM Shared Bool)
  modify fun s => { s with deserializer := { s.deserializer with
    schedule := d.schedule.tail
    seen := d.seen ++ [⟨key, value⟩] } }
  return true

end Busy

instance {F C D : Type} : Deserializer (Busy F C D) where
  deserialize := Busy.deserialize
  appends d := (d.schedule.map List.length).sum

/-! ## What is kept while records are read -/

/-- Between two records, the log holds what was published, and for the keys that are settled the
cache is what it would be if only the records read had been added to it. -/
structure Kept (topic : String) (start : Nat → Nat) (j : Nat) (c₀ : RecencyCache)
    (rs : List Record) (logged : List Position) (w : Shared) : Prop where
  accepts : w.broker.Accepts
  holds : w.broker.Holds topic logged
  start_le : ∀ p, start p ≤ (w.broker.entries topic p).size
  lt : j < w.caches.size
  cache : ∃ es, w.caches.get j = c₀.addAll es ∧
    Agree (w.broker.settled start logged rs) (c₀.entries ++ es) (c₀.entries ++ Record.entries rs)

namespace Kept

variable {topic : String} {start : Nat → Nat} {j : Nat} {c₀ : RecencyCache} {rs : List Record}
  {logged : List Position} {w : Shared}

/-- There is no more of a partition that was read than there is of it. -/
theorem read_le (h : Kept topic start j c₀ rs logged w) (hread : w.broker.ReadFrom topic start rs)
    {p : Nat} (hp : p < w.broker.partitions) :
    start p + (rs.filter (Record.isIn p)).length ≤ (w.broker.routed logged p).length := by
  have hle := (hread.inOrder p hp).length_le
  have hstart := h.start_le p
  rw [List.length_drop, Broker.length_records] at hle
  have hsize := h.holds.size_entries hp
  rw [Broker.routed]
  omega

/-- Something is published, and may be mirrored in the cache. -/
theorem published (h : Kept topic start j c₀ rs logged w)
    (hread : w.broker.ReadFrom topic start rs) (cache : Option Nat) (q : Position)
    (n : Log Notice) (l : Pool (Log Loss)) :
    Kept topic start j c₀ rs (logged ++ [q]) (w.published topic cache q n l) := by
  have hbroker : (w.published topic cache q n l).broker = w.broker.push topic q.toEntry :=
    if_pos h.accepts
  have hext := w.broker.extends_push topic q.toEntry topic
  have hunsettled := Broker.settled_append_self
    (h.read_le hread (w.broker.home_lt q.stream))
  have hearlier (key : String) (hkey : w.broker.settled start (logged ++ [q]) rs key = true) :
      w.broker.settled start logged rs key = true := Broker.settled_of_append hkey
  obtain ⟨es, hcache, hagree⟩ := h.cache
  constructor
  · rw [hbroker]
    exact h.accepts
  · rw [hbroker]
    exact h.holds.push q
  · rw [hbroker]
    exact fun p => (h.start_le p).trans (hext.size_le p)
  · rw [caches_published, Pool.size_mirror]
    exact h.lt
  · rw [hbroker, Broker.settled_congr hext.partitions, caches_published,
      Pool.get_mirror cache q h.lt, hcache]
    -- Mirrored or not, the key of what was published is no longer settled.
    split
    · refine ⟨es ++ [q.entry], (RecencyCache.addAll_append ..).symm, ?_⟩
      rw [← List.append_assoc]
      exact hagree.append_left hearlier hunsettled
    · exact ⟨es, rfl, hagree.mono hearlier⟩

/-- The next record is read, and added to the cache. -/
theorem loaded {l : Loader} (h : Kept topic start l.cache c₀ rs logged w) {r : Record}
    (hread : w.broker.ReadFrom topic start (rs ++ [r])) (counters : Pool Nat) :
    Kept topic start l.cache c₀ (rs ++ [r]) logged
      { w with caches := l.cachesAfter w.caches r, counters } := by
  obtain ⟨u, hu, hin, hrest⟩ := h.holds.rest_eq_cons hread
  obtain ⟨es, hcache, hagree⟩ := h.cache
  have hentries : Record.entries [r] = [u.entry] := Record.entries_cons_of_some hu []
  refine ⟨h.accepts, h.holds, h.start_le, ?_, es ++ [u.entry], ?_, ?_⟩
  · exact (Loader.size_cachesAfter w.caches r).symm ▸ h.lt
  · rw [Loader.get_cachesAfter_self h.lt, hcache, hentries, RecencyCache.addAll_append]
  · rw [Record.entries_append, hentries, ← List.append_assoc, ← List.append_assoc]
    exact hagree.append fun key hne => Broker.settled_of_append_read hin hrest hne

end Kept

/-! ## What the deserializer keeps to -/

namespace Busy

variable {F C D : Type} {topic : String} {start : Nat → Nat} {c₀ : RecencyCache}
  {rs : List Record} {logged : List Position} {w : Shared} {d : Busy F C D}
  {wp : WritePath Producer}

/-- All that publish can, and on one topic; and what is scheduled is for them. -/
structure CanPublish (d : Busy F C D) (wp : WritePath Producer) (topic : String) : Prop where
  producer : ∃ producer, wp.producer = some producer ∧ producer.closed = false
  writer : wp.writer.topic = topic
  others : ∀ s ∈ d.others, s.CanPublish ∧ s.topic = topic
  scheduled : ∀ calls ∈ d.schedule, ∀ x ∈ calls, ∀ who ∈ x.1, who < d.others.length

/-- A position is published, by whomever. -/
theorem call_apply (h : d.CanPublish wp topic) {x : Option Nat × Position}
    (hx : ∀ who ∈ x.1, who < d.others.length) (w : Shared) :
    ∃ cache n l, call x { deserializer := d, write := some wp } w =
      (((), { deserializer := d, write := some wp }), w.published topic cache x.2 n l) := by
  obtain ⟨who, p⟩ := x
  cases who with
  | none =>
    obtain ⟨producer, hs, hopen⟩ := h.producer
    obtain ⟨n, l, happly⟩ := WritePath.publish_apply hs hopen p w
    have hsome : (Act.onSome (WritePath.publish p).run) (some wp) w =
        ((some (.ok ()), some wp), w.published wp.writer.topic wp.cache p n l) := by
      rw [Act.onSome_some, Try.run_apply, happly]
    have hstep : (Act.onSome (WritePath.publish p).run >>= fun _ => pure ()) (some wp) w =
        (((), some wp), w.published wp.writer.topic wp.cache p n l) := Act.bind_of_eq hsome
    refine ⟨wp.cache, n, l, ?_⟩
    rw [← h.writer, call]
    exact Act.on_of_eq hstep
  | some who =>
    obtain ⟨s, hs⟩ : ∃ s, d.others[who]? = some s := ⟨_, List.getElem?_eq_getElem (hx who rfl)⟩
    obtain ⟨hcan, rfl⟩ := h.others s (List.mem_of_getElem? hs)
    obtain ⟨n, l, hrun⟩ := Event.run_publish_of_some hs hcan p w
    refine ⟨s.write.cache, n, l, ?_⟩
    rw [call]
    exact Act.on_of_eq hrun

/-- Positions are published one after the other. -/
theorem calls_spec (h : d.CanPublish wp topic) {j : Nat} (calls : List (Option Nat × Position))
    (hcalls : ∀ x ∈ calls, ∀ who ∈ x.1, who < d.others.length)
    (hkept : Kept topic start j c₀ rs logged w) (hread : w.broker.ReadFrom topic start rs) :
    ∃ w', calls.forM call { deserializer := d, write := some wp } w =
        (((), { deserializer := d, write := some wp }), w') ∧
      Kept topic start j c₀ rs (logged ++ calls.map (·.2)) w' ∧
      w.broker.Extends w'.broker topic := by
  induction calls generalizing w logged with
  | nil =>
    refine ⟨w, rfl, ?_, .refl _ _⟩
    rwa [List.map_nil, List.append_nil]
  | cons x calls ih =>
    obtain ⟨cache, n, l, hcall⟩ := call_apply h (hcalls x List.mem_cons_self) w
    have hext : w.broker.Extends (w.published topic cache x.2 n l).broker topic := by
      rw [broker_published, Broker.offer, if_pos hkept.accepts]
      exact w.broker.extends_push topic _ topic
    rcases ih (fun y hy => hcalls y (List.mem_cons_of_mem x hy))
      (hkept.published hread cache x.2 n l) (hread.extends hext) with ⟨w', hrest, hkept', hext'⟩
    refine ⟨w', (Act.bind_of_eq hcall).trans hrest, ?_, hext.trans hext'⟩
    rw [List.map_cons, List.append_cons]
    exact hkept'

/-- The deserializer after it has taken these records. -/
def after (d : Busy F C D) (rs : List Record) : Busy F C D :=
  { d with
    schedule := d.schedule.drop rs.length
    seen := d.seen ++ rs.map fun r => ⟨r.key, r.value⟩ }

theorem after_nil (d : Busy F C D) : d.after [] = d := by
  rw [after, List.map_nil, List.append_nil]
  rfl

theorem after_append (d : Busy F C D) (rs : List Record) (r : Record) :
    d.after (rs ++ [r]) = { d.after rs with
      schedule := (d.after rs).schedule.tail
      seen := (d.after rs).seen ++ [⟨r.key, r.value⟩] } := by
  rw [after, after, List.tail_drop, List.length_append, List.map_append, ← List.append_assoc]
  rfl

/-- What is published before the record that is taken after so many. -/
def callsAt (d : Busy F C D) (n : Nat) : List (Option Nat × Position) :=
  (d.schedule[n]?).getD []

/-- What was published while so many records were taken. -/
def publishedBy (d : Busy F C D) (n : Nat) : List Position :=
  (d.schedule.take n).flatten.map (·.2)

theorem headD_schedule_after (d : Busy F C D) (rs : List Record) :
    (d.after rs).schedule.headD [] = d.callsAt rs.length := by
  rw [after, List.headD_eq_head?_getD, List.head?_drop]
  rfl

theorem publishedBy_zero (d : Busy F C D) : d.publishedBy 0 = [] := rfl

theorem publishedBy_succ (d : Busy F C D) (n : Nat) :
    d.publishedBy (n + 1) = d.publishedBy n ++ (d.callsAt n).map (·.2) := by
  unfold publishedBy callsAt
  rw [List.take_add_one, List.flatten_append, List.map_append]
  cases d.schedule[n]? with
  | none => rfl
  | some calls => rw [Option.toList_some, List.flatten_singleton, Option.getD_some]

theorem callsAt_valid (h : d.CanPublish wp topic) (n : Nat) :
    ∀ x ∈ d.callsAt n, ∀ who ∈ x.1, who < d.others.length := by
  unfold callsAt
  cases hcalls : d.schedule[n]? with
  | none => exact fun x hx => absurd hx List.not_mem_nil
  | some calls => exact h.scheduled calls (List.mem_of_getElem? hcalls)

theorem appends_after (d : Busy F C D) (rs : List Record) (r : Record) :
    Deserializer.appends (d.after rs) =
      (d.callsAt rs.length).length + Deserializer.appends (d.after (rs ++ [r])) := by
  have happends (d : Busy F C D) : Deserializer.appends d = (d.schedule.map List.length).sum := rfl
  rw [happends, happends, after, after, callsAt, List.length_append, List.length_singleton]
  dsimp only
  cases hcalls : d.schedule[rs.length]? with
  | none =>
    have hle := List.getElem?_eq_none_iff.mp hcalls
    rw [List.drop_eq_nil_of_le hle, List.drop_eq_nil_of_le (Nat.le_succ_of_le hle)]
    rfl
  | some calls =>
    obtain ⟨hlt, hget⟩ := List.getElem?_eq_some_iff.mp hcalls
    rw [List.drop_eq_getElem_cons hlt, List.map_cons, List.sum_cons, hget]
    rfl

theorem CanPublish.after (h : d.CanPublish wp topic) (rs : List Record) :
    (d.after rs).CanPublish wp topic :=
  ⟨h.producer, h.writer, h.others, fun calls hmem =>
    h.scheduled calls (List.mem_of_mem_drop hmem)⟩

/-- A record is taken. -/
theorem deserialize_spec (h : d.CanPublish wp topic) {ps : List Position} {r : Record}
    (hkept : Kept topic start d.loader.cache c₀ rs (ps ++ d.publishedBy rs.length) w)
    (hread : w.broker.ReadFrom topic start (rs ++ [r])) :
    ∃ w',
      Deserializer.deserialize r.key r.value { deserializer := d.after rs, write := some wp } w =
        ((true, { deserializer := d.after (rs ++ [r]), write := some wp }), w') ∧
      Kept topic start d.loader.cache c₀ (rs ++ [r]) (ps ++ d.publishedBy (rs ++ [r]).length) w' ∧
      w.broker.Extends w'.broker topic := by
  obtain ⟨w₁, hcalls, hkept₁, hext⟩ := calls_spec (h.after rs) (d.callsAt rs.length)
    (callsAt_valid h rs.length) hkept hread.of_append
  obtain ⟨counters, hload⟩ := d.loader.load_apply r w₁
  refine ⟨{ w₁ with caches := d.loader.cachesAfter w₁.caches r, counters }, ?_, ?_, hext⟩
  · change Busy.deserialize r.key r.value { deserializer := d.after rs, write := some wp } w = _
    apply (Act.bind_of_eq (Act.get_apply _ w)).trans
    rw [headD_schedule_after]
    apply (Act.bind_of_eq hcalls).trans
    apply (Act.bind_of_eq (Act.lift_of_eq hload)).trans
    apply (Act.bind_of_eq (Act.modify_apply _ _ _)).trans
    rw [after_append]
    rfl
  · rw [List.length_append, List.length_singleton, publishedBy_succ, ← List.append_assoc]
    exact hkept₁.loaded (hread.extends hext) counters

/-- As much as the log grows, so much less is still to be published. -/
theorem keeps_kept (h : d.CanPublish wp topic) (start : Nat → Nat) (c₀ : RecencyCache)
    (ps : List Position) :
    Replay.Keeps topic start fun rs (i : Intake (Busy F C D) Producer) w =>
      i = { deserializer := d.after rs, write := some wp } ∧
        Kept topic start d.loader.cache c₀ rs (ps ++ d.publishedBy rs.length) w where
  told n hJ := ⟨hJ.1, hJ.2.accepts, hJ.2.holds, hJ.2.start_le, hJ.2.lt, hJ.2.cache⟩
  taken {rs r i w} hJ hread := by
    obtain ⟨rfl, hkept⟩ := hJ
    obtain ⟨w', hdes, hkept', hext⟩ := deserialize_spec h hkept hread
    refine ⟨_, w', hdes, ⟨rfl, hkept'⟩, hext, Nat.le_of_eq ?_⟩
    have hpublished : (d.publishedBy (rs ++ [r]).length).length =
        (d.publishedBy rs.length).length + (d.callsAt rs.length).length := by
      rw [List.length_append, List.length_singleton, publishedBy_succ, List.length_append,
        List.length_map]
    dsimp only
    rw [hkept.holds.recordCount, hkept'.holds.recordCount, appends_after d rs r,
      List.length_append, hpublished, List.length_append]
    omega

end Busy

/-! ## The replay -/

namespace Checkpointer

variable {F G C D : Type} {s : Checkpointer F Producer Consumer (Busy G C D)} {c : Consumer}
  {d : Busy G C D} {w : Shared} {capacity : Int64} {ps : List Position}

/-- A checkpointer that loads into the cache that it mirrors in, and where another one publishes
too. -/
def busy (topic : String) (schedule : List (List (Option Nat × Position))) :
    Checkpointer Broker.Factory Producer Consumer (Busy Broker.Factory Consumer Loader) :=
  ready (.simple topic) {} 0 (some 0)
    { loader := { cache := 0, counter := 0 }, others := [simple topic 1], schedule }

theorem canPublish_busy {topic : String} {schedule : List (List (Option Nat × Position))}
    (hs : ∀ calls ∈ schedule, ∀ x ∈ calls, ∀ who ∈ x.1, who < 1) :
    Busy.CanPublish
      { loader := { cache := 0, counter := 0 }, others := [simple topic 1], schedule }
      (busy topic schedule).write topic where
  producer := ⟨_, rfl, rfl⟩
  writer := rfl
  others t ht := by
    rw [List.mem_singleton.mp ht]
    exact ⟨canPublish_ready .., rfl⟩
  scheduled := hs

/-- A cache that is up to date is up to date after a replay, whatever is published during it.  Each
partition is read to the end that it has then, also the records that were published meanwhile, each
once and in order. -/
theorem restored_during_publishing (hs : s.CanRestore c d) (hd : d.CanPublish s.write s.topic)
    (hcache : s.write.cache = some d.loader.cache) (hlt : d.loader.cache < w.caches.size)
    (hcapacity : (w.caches.get d.loader.cache).capacity = capacity.toInt)
    (hacc : w.broker.Accepts) (hlog : w.broker.Holds s.topic ps)
    (hlatest : ∀ stream value, (stream, value) ∈ (w.caches.get d.loader.cache).entries →
      RecencyCache.value? (ps.map Position.entry) stream = some value) :
    ∃ k rs c' w',
      restore s w =
        ((.ok ⟨k, rs.length, false⟩, { s with read := .apart c' (d.after rs) }), w') ∧
      w'.broker.ReadAll s.topic
        (fun p => RecencyCache.excess capacity.toInt (w.broker.entries s.topic p).size) rs ∧
      w'.broker.Holds s.topic (ps ++ d.publishedBy rs.length) ∧
      (∀ stream value, (stream, value) ∈ (w'.caches.get d.loader.cache).entries →
        RecencyCache.value? ((ps ++ d.publishedBy rs.length).map Position.entry) stream =
          some value) ∧
      ((w.caches.get d.loader.cache).Bounded →
        (w'.caches.get d.loader.cache).entries = RecencyCache.newest capacity.toInt
          (RecencyCache.latest ((w.caches.get d.loader.cache).entries ++ Record.entries rs))) ∧
      (capacity.toInt ≤ 0 → ∀ p ∈ ps ++ d.publishedBy rs.length,
        p.stream ∈ (w'.caches.get d.loader.cache).entries.map (·.1)) := by
  have hstart : w.broker.startOf s.topic (s.depth w) =
      fun p => RecencyCache.excess capacity.toInt (w.broker.entries s.topic p).size := by
    funext p
    rw [depth_of_cache hcache w, w.broker.startOf_replayDepth s.topic hcapacity]
  have hkept : Kept s.topic (w.broker.startOf s.topic (s.depth w)) d.loader.cache
      (w.caches.get d.loader.cache) [] (ps ++ d.publishedBy ([] : List Record).length) w := by
    rw [List.length_nil, Busy.publishedBy_zero, List.append_nil]
    exact ⟨hacc, hlog, fun p => Broker.startAt_le _ _, hlt, [], rfl, .refl _ _⟩
  obtain ⟨k, rs, i, c', w', hrestore, ⟨rfl, hkept'⟩, hext, hall, -⟩ :=
    restore_spec hs w (Busy.keeps_kept hd _ _ ps) ⟨by rw [d.after_nil], hkept⟩
  obtain ⟨es, hown, hagree⟩ := hkept'.cache
  have hsame := hagree.latest_eq (hall.settled hkept'.holds)
  refine ⟨k, rs, c', w', hrestore, hstart ▸ hall, hkept'.holds, ?_, ?_, ?_⟩
  · intro stream value hmem
    rw [hown] at hmem
    have hin := RecencyCache.entries_addAll_subset _ es hmem
    rw [hsame] at hin
    refine hall.value?_append_entries hkept'.holds ?_ (fun v hv => ?_)
      (RecencyCache.mem_latest.mp hin)
    · rw [Broker.routed_congr hext.partitions, Broker.home_congr hext.partitions, Broker.routed,
        ← hlog.size_entries (w.broker.home_lt stream)]
      exact Broker.startAt_le _ _
    · rw [← RecencyCache.mem_latest, RecencyCache.latest_entries] at hv
      exact hlatest stream v hv
  · intro hbounded
    rw [hown, RecencyCache.entries_addAll hbounded, hcapacity, hsame]
  · intro hunbounded p hp
    have hzero (q : Nat) : w.broker.startOf s.topic (s.depth w) q = 0 := by
      rw [hstart]
      exact RecencyCache.excess_of_nonpos hunbounded _
    rw [hown, RecencyCache.entries_addAll (RecencyCache.bounded_of_nonpos (hcapacity ▸ hunbounded)),
      hcapacity, hsame, RecencyCache.newest_eq_self (RecencyCache.excess_of_nonpos hunbounded _),
      RecencyCache.keys_latest, List.mem_dedup, List.map_append]
    exact List.mem_append_right _ (hall.mem_keys hkept'.holds hzero hp)

/-- A position is published again and again before it is read back, and its last value remains. -/
theorem restored_during_publishing_of_one :
    ∃ k n t' w',
      restore (busy "t" [[(none, ⟨"a", 2⟩), (some 0, ⟨"a", 3⟩)]])
          ((Shared.start {} 2 0).published "t" (some 0) ⟨"a", 1⟩ {} {}) =
        ((.ok ⟨k, n, false⟩, t'), w') ∧
      "a" ∈ (w'.caches.get 0).entries.map (·.1) ∧
      ∀ value, ("a", value) ∈ (w'.caches.get 0).entries → value = 3 := by
  have hrecorded : Recorded "t" (some 0) [⟨"a", 1⟩] (Shared.start {} 2 0)
      ((Shared.start {} 2 0).published "t" (some 0) ⟨"a", 1⟩ {} {}) := .published ⟨rfl, rfl⟩ _ _
  have hlog := hrecorded.holds [] (Broker.holds_nil rfl)
  have hnew := Shared.isNew_start {} 0 Nat.two_pos
  have hown := hrecorded.get 0 Nat.two_pos
  rw [if_pos rfl] at hown
  have hcapacity : (((Shared.start {} 2 0).published "t" (some 0) ⟨"a", 1⟩ {} {}).caches.get
      0).capacity = (0 : Int64).toInt := by
    rw [hown, RecencyCache.capacity_addAll, hnew.capacity_eq]
  have hbefore (stream : String) (value : Int64) (hmem : (stream, value) ∈
      (((Shared.start {} 2 0).published "t" (some 0) ⟨"a", 1⟩ {} {}).caches.get 0).entries) :
      RecencyCache.value? ([⟨"a", 1⟩].map Position.entry) stream = some value := by
    rw [hown] at hmem
    have hin := RecencyCache.entries_addAll_subset _ _ hmem
    rw [hnew.entries_eq, List.nil_append] at hin
    exact RecencyCache.mem_latest.mp hin
  obtain ⟨k, rs, c', w', hrestore, hall, hlog', hlatest, -, hkeys⟩ :=
    restored_during_publishing (s := busy "t" [[(none, ⟨"a", 2⟩), (some 0, ⟨"a", 3⟩)]])
      (canRestore_ready {} 0 (some 0) _ Nat.one_pos) (canPublish_busy (by decide)) rfl
      (hrecorded.size ▸ Nat.two_pos) hcapacity hrecorded.accepts hlog hbefore
  refine ⟨k, rs.length, _, w', hrestore, ?_, fun value hmem => ?_⟩
  · exact hkeys (by decide) ⟨"a", 1⟩ (List.mem_append_left _ List.mem_cons_self)
  · have hlast := hlatest "a" value hmem
    have hread : RecencyCache.value? (Record.entries rs) "a" = some value := by
      rw [hall.value?_entries hlog', RecencyCache.excess_of_nonpos (by decide), List.drop_zero,
        w'.broker.value?_routed]
      exact hlast
    cases rs with
    | nil => exact absurd hread nofun
    | cons r rs =>
      rw [List.length_cons, Busy.publishedBy, List.take_of_length_le (Nat.le_add_left 1 _)] at hlast
      exact (Option.some.inj hlast).symm

end Checkpointer

end PositionLog
