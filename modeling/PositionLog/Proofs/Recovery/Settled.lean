import PositionLog.Proofs.Broker.Recall

/-!
# Keys that are settled

While positions are published during a replay, the cache is ahead of the replay for some keys, and
older records of these overwrite the newer values in it.  But then a newer record is still to be
read.  A key is settled when no record of it is; and for the settled keys the cache is what it would
be if nothing but the records read had been added to it.
-/

namespace PositionLog

namespace RecencyCache

/-- These additions leave the same entries, in the same order, for the keys in `K`. -/
def Agree (K : String → Bool) (es fs : List (String × Int64)) : Prop :=
  (latest es).filter (fun e => K e.1) = (latest fs).filter fun e => K e.1

namespace Agree

variable {K K' : String → Bool} {es fs : List (String × Int64)} {e : String × Int64}

theorem refl (K : String → Bool) (es : List (String × Int64)) : Agree K es es := rfl

/-- What agrees for some keys agrees for fewer. -/
theorem filter_eq (h : Agree K es fs) {q : String × Int64 → Bool}
    (hq : ∀ e, q e = true → K e.1 = true) : (latest es).filter q = (latest fs).filter q := by
  have hsub (gs : List (String × Int64)) :
      gs.filter q = (gs.filter fun e => K e.1).filter q := by
    rw [List.filter_filter]
    apply List.filter_congr
    intro e _
    cases hqe : q e with
    | false => rfl
    | true => rw [hq e hqe, Bool.and_self]
  rw [hsub, hsub (latest fs), h]

theorem mono (h : Agree K es fs) (hK : ∀ key, K' key = true → K key = true) : Agree K' es fs :=
  h.filter_eq fun e => hK e.1

/-- An addition for a key that does not matter does not matter. -/
theorem append_left (h : Agree K es fs) (hK : ∀ key, K' key = true → K key = true)
    (he : K' e.1 = false) : Agree K' (es ++ [e]) fs := by
  have hother : (latest es).filter (fun f => K' f.1 && decide (f.1 ≠ e.1)) =
      (latest es).filter fun f => K' f.1 := by
    apply List.filter_congr
    intro f _
    by_cases hf : f.1 = e.1
    · rw [hf, he, Bool.false_and]
    · rw [decide_eq_true hf, Bool.and_true]
  have hlast : [e].filter (fun f => K' f.1) = [] :=
    List.filter_eq_nil_iff.mpr fun f hf => by rw [List.mem_singleton.mp hf, he]; exact nofun
  rw [Agree, latest_append_singleton, List.filter_append, List.filter_filter, hother, hlast,
    List.append_nil]
  exact h.mono hK

/-- After the same addition they also agree for its key. -/
theorem append (h : Agree K es fs) (hK : ∀ key ≠ e.1, K' key = true → K key = true) :
    Agree K' (es ++ [e]) (fs ++ [e]) := by
  rw [Agree, latest_append_singleton, latest_append_singleton, List.filter_append,
    List.filter_append, List.filter_filter, List.filter_filter]
  refine congrArg (· ++ _) (h.filter_eq fun f hf => ?_)
  obtain ⟨hK', hne⟩ := Bool.and_eq_true_iff.mp hf
  exact hK f.1 (of_decide_eq_true hne) hK'

theorem latest_eq (h : Agree K es fs) (hK : ∀ key, K key = true) : latest es = latest fs := by
  have hall (gs : List (String × Int64)) : gs.filter (fun e => K e.1) = gs :=
    List.filter_eq_self.mpr fun e _ => hK e.1
  rw [← hall (latest es), h, hall]

end Agree

end RecencyCache

namespace Broker

variable {b : Broker} {topic : String} {start : Nat → Nat} {logged : List Position}
  {rs : List Record} {r : Record}

/-- What is still to be read of a partition. -/
def rest (b : Broker) (start : Nat → Nat) (logged : List Position) (rs : List Record) (p : Nat) :
    List Position :=
  (b.routed logged p).drop (start p + (rs.filter (Record.isIn p)).length)

/-- No record of the key is still to be read. -/
def settled (b : Broker) (start : Nat → Nat) (logged : List Position) (rs : List Record)
    (stream : String) : Bool :=
  decide (stream ∉ (b.rest start logged rs (b.home stream)).map Position.stream)

/-- Only the number of partitions decides which keys are settled. -/
theorem settled_congr {b' : Broker} (h : b'.partitions = b.partitions) (start : Nat → Nat)
    (logged : List Position) (rs : List Record) :
    b'.settled start logged rs = b.settled start logged rs := by
  have hrouted : b'.routed = b.routed := by
    funext ps p
    rw [routed, routed, route_congr h]
  funext stream
  rw [settled, settled, rest, rest, hrouted, home, home, route_congr h]

theorem routed_append (b : Broker) (ps qs : List Position) (p : Nat) :
    b.routed (ps ++ qs) p = b.routed ps p ++ b.routed qs p := List.filter_append ..

/-- A key that is settled was settled before something was published. -/
theorem settled_of_append {qs : List Position} {stream : String}
    (h : b.settled start (logged ++ qs) rs stream = true) :
    b.settled start logged rs stream = true := by
  apply decide_eq_true
  intro hmem
  apply of_decide_eq_true h
  rw [rest, routed_append, List.drop_append, List.map_append]
  exact List.mem_append_left _ hmem

/-- A key that was just published is not settled. -/
theorem settled_append_self {q : Position}
    (hle : start (b.home q.stream) + (rs.filter (Record.isIn (b.home q.stream))).length ≤
      (b.routed logged (b.home q.stream)).length) :
    b.settled start (logged ++ [q]) rs q.stream = false := by
  refine decide_eq_false (not_not_intro ?_)
  have hq : b.routed [q] (b.home q.stream) = [q] :=
    List.filter_cons_of_pos (decide_eq_true rfl)
  rw [rest, routed_append, hq, List.drop_append_of_le_length hle, List.map_append]
  exact List.mem_append_right _ List.mem_cons_self

/-- The next record that is read of a partition is the first one of those still to be read. -/
theorem Holds.rest_eq_cons (hlog : b.Holds topic logged)
    (hread : b.ReadFrom topic start (rs ++ [r])) :
    ∃ u, r.position? = some u ∧ r.isIn (b.home u.stream) = true ∧
      b.rest start logged rs (b.home u.stream) =
        u :: b.rest start logged (rs ++ [r]) (b.home u.stream) := by
  obtain ⟨p, hp, hin, hmem⟩ := hread.mem_records (List.mem_append_right rs List.mem_cons_self)
  have hown : (rs ++ [r]).filter (Record.isIn p) = rs.filter (Record.isIn p) ++ [r] := by
    rw [List.filter_append, List.filter_cons_of_pos hin, List.filter_nil]
  obtain ⟨later, hlater⟩ := hread.inOrder p hp
  have hfirst : (b.records topic p).drop (start p + (rs.filter (Record.isIn p)).length) =
      r :: later := by
    rw [← List.drop_drop, ← hlater, hown, List.append_assoc, List.drop_left]
    rfl
  have hnext : (b.records topic p).drop (start p + ((rs ++ [r]).filter (Record.isIn p)).length) =
      later := by
    rw [← List.drop_drop, ← hlater, List.drop_left]
  obtain ⟨u, hu⟩ := hlog.exists_position? hp hmem
  obtain rfl := hlog.route_of_mem_records hp hmem hu
  refine ⟨u, hu, hin, ?_⟩
  rw [rest, rest, ← hlog.filterMap_drop_records hp, ← hlog.filterMap_drop_records hp, hfirst, hnext,
    List.filterMap_cons_some hu]

/-- A key that is settled after a record was read was settled before, unless it is the key of this
record. -/
theorem settled_of_append_read {u : Position} (hin : r.isIn (b.home u.stream) = true)
    (hrest : b.rest start logged rs (b.home u.stream) =
      u :: b.rest start logged (rs ++ [r]) (b.home u.stream)) {stream : String}
    (hne : stream ≠ u.stream) (h : b.settled start logged (rs ++ [r]) stream = true) :
    b.settled start logged rs stream = true := by
  apply decide_eq_true
  intro hmem
  apply of_decide_eq_true h
  by_cases hhome : b.home stream = b.home u.stream
  · rw [hhome, hrest, List.map_cons, List.mem_cons] at hmem
    rw [hhome]
    exact hmem.resolve_left hne
  · have hout : ¬ r.isIn (b.home stream) = true := by
      intro hin'
      have he := of_decide_eq_true hin
      have he' := of_decide_eq_true hin'
      omega
    rw [rest, List.filter_append, List.filter_cons_of_neg hout, List.filter_nil, List.append_nil]
    exact hmem

/-- Once all was read, all keys are settled. -/
theorem ReadAll.settled (h : b.ReadAll topic start rs) (hlog : b.Holds topic logged)
    (stream : String) : b.settled start logged rs stream = true := by
  apply decide_eq_true
  rw [rest, h.inOrder _ (b.home_lt stream), List.length_drop, length_records,
    hlog.size_entries (b.home_lt stream), List.drop_eq_nil_of_le]
  · exact List.not_mem_nil
  · rw [routed]
    omega

end Broker

end PositionLog
