import PositionLog.Proofs.Broker.Reading
import PositionLog.Proofs.Recency

/-!
# Which positions are read back

All positions of a stream are in one partition, in the order in which they were written.  So what
was read of a stream is decided by what was read of its partition alone, however the partitions were
read one after the other; and the value that was read last is the value that was written last, if
any was read at all.
-/

namespace PositionLog

/-- The entries that a cache is given for these records. -/
def Record.entries (rs : List Record) : List (String × Int64) :=
  (rs.filterMap Record.position?).map Position.entry

theorem Record.entries_append (rs rs' : List Record) :
    Record.entries (rs ++ rs') = Record.entries rs ++ Record.entries rs' := by
  rw [entries, List.filterMap_append, List.map_append]
  rfl

theorem Record.entries_cons_of_none {r : Record} (h : r.position? = none) (rs : List Record) :
    Record.entries (r :: rs) = Record.entries rs := by
  rw [entries, List.filterMap_cons_none h]
  rfl

theorem Record.entries_cons_of_some {r : Record} {q : Position} (h : r.position? = some q)
    (rs : List Record) : Record.entries (r :: rs) = q.entry :: Record.entries rs := by
  rw [entries, List.filterMap_cons_some h]
  rfl

namespace Broker

/-- The partition where the positions of a stream are. -/
def home (b : Broker) (stream : String) : Nat := b.route (Payload.toBytes stream)

/-- Those of the positions that go to one partition. -/
def routed (b : Broker) (ps : List Position) (p : Nat) : List Position :=
  ps.filter fun q => b.route q.key = p

theorem home_lt (b : Broker) (stream : String) : b.home stream < b.partitions := b.route_lt _

theorem home_congr {b b' : Broker} (h : b'.partitions = b.partitions) : b'.home = b.home := by
  funext stream
  rw [home, home, route_congr h]

theorem routed_congr {b b' : Broker} (h : b'.partitions = b.partitions) :
    b'.routed = b.routed := by
  funext ps p
  rw [routed, routed, route_congr h]

variable {b : Broker} {topic : String} {start : Nat → Nat} {ps : List Position} {rs : List Record}

/-- What is on the log of a partition from some offset on, as positions. -/
theorem Holds.filterMap_drop_records (h : b.Holds topic ps) {p : Nat} (hp : p < b.partitions)
    (n : Nat) :
    ((b.records topic p).drop n).filterMap Record.position? = (b.routed ps p).drop n := by
  have hmap : ((b.records topic p).drop n).map Record.position? =
      ((b.routed ps p).drop n).map some := by
    rw [List.map_drop, h.map_position?_records hp, List.map_drop]
    rfl
  have hid := congrArg (List.filterMap id) hmap
  rwa [List.filterMap_map, List.filterMap_map, Function.id_comp, Function.id_comp,
    List.filterMap_some] at hid

/-- Every record of a partition is of some position. -/
theorem Holds.exists_position? (h : b.Holds topic ps) {p : Nat} (hp : p < b.partitions) {r : Record}
    (hr : r ∈ b.records topic p) : ∃ q, r.position? = some q := by
  have hmem := List.mem_map_of_mem (f := Record.position?) hr
  rw [h.map_position?_records hp] at hmem
  obtain ⟨q, -, hq⟩ := List.mem_map.mp hmem
  exact ⟨q, hq.symm⟩

/-- A record is of a position that goes to its partition. -/
theorem Holds.route_of_mem_records (h : b.Holds topic ps) {p : Nat} (hp : p < b.partitions)
    {r : Record} (hr : r ∈ b.records topic p) {q : Position} (hq : r.position? = some q) :
    b.home q.stream = p := by
  have hmem : q ∈ b.routed ps p := by
    rw [← List.drop_zero (l := b.routed ps p), ← h.filterMap_drop_records hp, List.drop_zero]
    exact List.mem_filterMap.mpr ⟨r, hr, hq⟩
  exact of_decide_eq_true (List.mem_filter.mp hmem).2

/-- What was read of a stream was read of its partition. -/
theorem filter_entries (hroute : ∀ r ∈ rs, ∀ q, r.position? = some q →
      r.isIn (b.home q.stream) = true) (stream : String) :
    (Record.entries rs).filter (·.1 = stream) =
      (Record.entries (rs.filter (Record.isIn (b.home stream)))).filter (·.1 = stream) := by
  induction rs with
  | nil => rfl
  | cons r rs ih =>
    have ih := ih fun r hr => hroute r (List.mem_cons_of_mem _ hr)
    cases hq : r.position? with
    | none =>
      rw [Record.entries_cons_of_none hq, ih, List.filter_cons]
      split
      · rw [Record.entries_cons_of_none hq]
      · rfl
    | some q =>
      have hin := hroute r List.mem_cons_self q hq
      rw [Record.entries_cons_of_some hq, List.filter_cons, List.filter_cons]
      by_cases hs : q.stream = stream
      · subst hs
        rw [if_pos hin, Record.entries_cons_of_some hq, List.filter_cons, ih]
      · have hne : ¬ decide (q.entry.1 = stream) = true := fun h => hs (of_decide_eq_true h)
        rw [if_neg hne, ih]
        split
        · rw [Record.entries_cons_of_some hq, List.filter_cons, if_neg hne]
        · rfl

theorem ReadAll.readFrom (h : b.ReadAll topic start rs) : b.ReadFrom topic start rs :=
  ⟨h.partition, fun p hp => h.inOrder p hp ▸ List.prefix_rfl⟩

theorem ReadFrom.mem_records (h : b.ReadFrom topic start rs) {r : Record} (hr : r ∈ rs) :
    ∃ p < b.partitions, r.isIn p ∧ r ∈ b.records topic p := by
  obtain ⟨p, hp, hrp⟩ := h.partition r hr
  have hin : r.isIn p = true := decide_eq_true hrp
  have hmem := (h.inOrder p hp).subset (List.mem_filter.mpr ⟨hr, hin⟩)
  exact ⟨p, hp, hin, List.mem_of_mem_drop hmem⟩

/-- What was read of a stream, while the log may go on. -/
theorem ReadFrom.filter_entries (h : b.ReadFrom topic start rs) (hlog : b.Holds topic ps)
    (stream : String) :
    (Record.entries rs).filter (·.1 = stream) =
      (Record.entries (rs.filter (Record.isIn (b.home stream)))).filter (·.1 = stream) := by
  refine Broker.filter_entries (fun r hr q hq => ?_) stream
  obtain ⟨p, hp, hin, hmem⟩ := h.mem_records hr
  rw [hlog.route_of_mem_records hp hmem hq]
  exact hin

/-- The positions of a stream are those of its partition. -/
theorem value?_routed (b : Broker) (ps : List Position) (stream : String) :
    RecencyCache.value? ((b.routed ps (b.home stream)).map Position.entry) stream =
      RecencyCache.value? (ps.map Position.entry) stream := by
  refine RecencyCache.value?_congr ?_
  rw [List.filter_map, List.filter_map, routed, List.filter_filter]
  refine congrArg _ (List.filter_congr fun q _ => ?_)
  by_cases hq : q.stream = stream
  · subst hq
    simp [Position.entry, home, Position.key]
  · simp [Position.entry, hq]

/-- Of each stream, the value that was read last is the last one of those read from its
partition. -/
theorem ReadAll.value?_entries (h : b.ReadAll topic start rs) (hlog : b.Holds topic ps)
    (stream : String) :
    RecencyCache.value? (Record.entries rs) stream =
      RecencyCache.value? (((b.routed ps (b.home stream)).drop (start (b.home stream))).map
        Position.entry) stream := by
  rw [RecencyCache.value?_congr (h.readFrom.filter_entries hlog stream), Record.entries,
    h.inOrder _ (b.home_lt stream), hlog.filterMap_drop_records (b.home_lt stream)]

/-- No value is read back but the one that was written last. -/
theorem ReadAll.value?_entries_of_some (h : b.ReadAll topic start rs) (hlog : b.Holds topic ps)
    {stream : String} {value : Int64}
    (hv : RecencyCache.value? (Record.entries rs) stream = some value) :
    RecencyCache.value? (ps.map Position.entry) stream = some value := by
  rw [h.value?_entries hlog] at hv
  rw [← b.value?_routed ps stream]
  exact RecencyCache.value?_of_suffix ((List.drop_suffix _ _).map _) hv

/-- From the start, all streams are read back. -/
theorem ReadAll.mem_keys (h : b.ReadAll topic start rs) (hlog : b.Holds topic ps)
    (hzero : ∀ p, start p = 0) {q : Position} (hq : q ∈ ps) :
    q.stream ∈ (Record.entries rs).map (·.1) := by
  rw [← RecencyCache.exists_value?_iff, h.value?_entries hlog, hzero, List.drop_zero,
    b.value?_routed, RecencyCache.exists_value?_iff]
  exact List.mem_map_of_mem (List.mem_map_of_mem hq)

/-- A stream of which nothing is read back has no position that was written after the start. -/
theorem ReadAll.value?_eq_none (h : b.ReadAll topic start rs) {qs : List Position}
    (hlog : b.Holds topic (ps ++ qs)) {stream : String}
    (hstart : start (b.home stream) ≤ (b.routed ps (b.home stream)).length)
    (hnone : RecencyCache.value? (Record.entries rs) stream = none) :
    RecencyCache.value? (qs.map Position.entry) stream = none := by
  have hrouted : b.routed (ps ++ qs) (b.home stream) =
      b.routed ps (b.home stream) ++ b.routed qs (b.home stream) := List.filter_append ..
  rw [h.value?_entries hlog, hrouted, List.drop_append_of_le_length hstart, List.map_append,
    RecencyCache.value?_append, Option.or_eq_none_iff] at hnone
  rw [← b.value?_routed qs stream]
  exact hnone.1

/-- Values that were up to date before the replay, and are followed by those that are read back, are
up to date after it. -/
theorem ReadAll.value?_append_entries (h : b.ReadAll topic start rs) {qs : List Position}
    (hlog : b.Holds topic (ps ++ qs)) {stream : String} {value : Int64}
    (hstart : start (b.home stream) ≤ (b.routed ps (b.home stream)).length)
    {es : List (String × Int64)}
    (hes : ∀ v, RecencyCache.value? es stream = some v →
      RecencyCache.value? (ps.map Position.entry) stream = some v)
    (hv : RecencyCache.value? (es ++ Record.entries rs) stream = some value) :
    RecencyCache.value? ((ps ++ qs).map Position.entry) stream = some value := by
  rw [RecencyCache.value?_append] at hv
  cases hread : RecencyCache.value? (Record.entries rs) stream with
  | some v =>
    rw [hread, Option.some_or] at hv
    exact h.value?_entries_of_some hlog (hread.trans hv)
  | none =>
    rw [hread, Option.none_or] at hv
    rw [List.map_append, RecencyCache.value?_append, h.value?_eq_none hlog hstart hread,
      Option.none_or]
    exact hes value hv

end Broker

end PositionLog
