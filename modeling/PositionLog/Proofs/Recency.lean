import PositionLog.Position
import PositionLog.RecencyCache
import Mathlib.Data.List.Dedup
import Mathlib.Data.List.DropRight
import Mathlib.Data.List.Infix

/-!
# What a recency cache holds

A cache is described by what was added to it: the latest entry of each key, in the order in which
these were added, cut to as many of the newest as the cache may hold.  The cut may be left to the
end (`entries_addAll`), because an entry that was dropped once can only come back as the newest.
-/

namespace PositionLog

/-- A position as an entry of a cache. -/
def Position.entry (p : Position) : String × Int64 := (p.stream, p.offset)

namespace RecencyCache

/-- The last entry of each key, in the order given. -/
def latest (es : List (String × Int64)) : List (String × Int64) := es.pwFilter fun e f => e.1 ≠ f.1

/-- What is left of the entries in a cache of this capacity. -/
def newest (capacity : Int) (es : List (String × Int64)) : List (String × Int64) :=
  es.drop (excess capacity es.length)

/-- The value that was given last for a key. -/
def value? (es : List (String × Int64)) (key : String) : Option Int64 :=
  (es.filter (·.1 = key)).getLast?.map (·.2)

/-- Adds entries one by one. -/
def addAll (c : RecencyCache) (es : List (String × Int64)) : RecencyCache :=
  es.foldl (fun c e => c.add e.1 e.2) c

/-- There are no more entries than there may be. -/
def Bounded (c : RecencyCache) : Prop := excess c.capacity c.size = 0

/-! ## The latest entry of each key -/

theorem latest_cons (e : String × Int64) (es : List (String × Int64)) :
    latest (e :: es) = if ∀ f ∈ latest es, e.1 ≠ f.1 then e :: latest es else latest es := by
  split
  · exact List.pwFilter_cons_of_pos ‹_›
  · exact List.pwFilter_cons_of_neg ‹_›

/-- A new last entry takes the place of the one that its key had. -/
theorem latest_append_singleton (es : List (String × Int64)) (e : String × Int64) :
    latest (es ++ [e]) = (latest es).filter (·.1 ≠ e.1) ++ [e] := by
  induction es with
  | nil => rfl
  | cons a es ih =>
    rw [List.cons_append, latest_cons, latest_cons, ih]
    by_cases hk : a.1 = e.1
    · rw [if_neg fun h => h e (by simp) hk]
      split <;> simp [hk]
    · have hiff : (∀ f ∈ (latest es).filter (·.1 ≠ e.1) ++ [e], a.1 ≠ f.1) ↔
          ∀ f ∈ latest es, a.1 ≠ f.1 := by
        constructor
        · intro h f hf hfa
          exact h f (by simp [hf, ← hfa, hk]) hfa
        · intro h f hf
          rcases List.mem_append.mp hf with hf | hf
          · exact h f (List.mem_filter.mp hf).1
          · rw [List.mem_singleton.mp hf]
            exact hk
      split
      · rw [if_pos (hiff.mp ‹_›), List.filter_cons_of_pos (by simpa using hk), List.cons_append]
      · rw [if_neg (mt hiff.mpr ‹_›)]

/-- Entries added later take the places of those that their keys had. -/
theorem latest_append (es fs : List (String × Int64)) :
    latest (es ++ fs) = (latest es).filter (·.1 ∉ fs.map (·.1)) ++ latest fs := by
  induction fs using List.reverseRecOn with
  | nil => simp [latest]
  | append_singleton fs f ih =>
    have hkeys : (latest es).filter (·.1 ∉ (fs ++ [f]).map (·.1)) =
        ((latest es).filter (·.1 ∉ fs.map (·.1))).filter (·.1 ≠ f.1) := by
      rw [List.filter_filter]
      apply List.filter_congr
      intro e _
      rw [← Bool.decide_and, decide_eq_decide, List.map_append, List.mem_append, not_or, and_comm,
        List.map_singleton, List.mem_singleton]
    rw [← List.append_assoc, latest_append_singleton, latest_append_singleton, ih,
      List.filter_append, hkeys, List.append_assoc]

/-- Entries added again are found where they were. -/
theorem latest_append_again (es fs : List (String × Int64)) :
    latest (es ++ fs ++ fs) = latest (es ++ fs) := by
  have hnone : (latest fs).filter (·.1 ∉ fs.map (·.1)) = [] := by
    rw [List.filter_eq_nil_iff]
    intro e he hkey
    exact of_decide_eq_true hkey (List.mem_map_of_mem ((List.pwFilter_sublist fs).subset he))
  rw [latest_append (es ++ fs), latest_append es, List.filter_append, hnone, List.append_nil,
    List.filter_filter]
  congr 2
  funext e
  exact Bool.and_self _

theorem latest_append_replicate (es fs : List (String × Int64)) (n : Nat) :
    latest (es ++ (List.replicate (n + 1) fs).flatten) = latest (es ++ fs) := by
  have hlast (n : Nat) : (List.replicate (n + 1) fs).flatten =
      (List.replicate n fs).flatten ++ fs := by
    rw [List.replicate_succ', List.flatten_concat]
  induction n with
  | zero => rw [hlast, List.replicate_zero, List.flatten_nil, List.nil_append]
  | succ n ih =>
    rw [← ih, hlast (n + 1), hlast n, ← List.append_assoc, ← List.append_assoc,
      latest_append_again]

theorem latest_suffix_append (es fs : List (String × Int64)) :
    latest fs <:+ latest (es ++ fs) := by
  induction es with
  | nil => exact List.suffix_rfl
  | cons e es ih =>
    rw [List.cons_append, latest_cons]
    split
    · exact ih.trans (List.suffix_cons e _)
    · exact ih

theorem latest_eq_self {es : List (String × Int64)} (h : (es.map (·.1)).Nodup) :
    latest es = es :=
  List.pwFilter_eq_self.mpr (List.pairwise_map.mp h)

theorem nodup_keys_latest (es : List (String × Int64)) : ((latest es).map (·.1)).Nodup :=
  List.pairwise_map.mpr (List.pairwise_pwFilter es)

/-- The keys are those given, each at its last place. -/
theorem keys_latest (es : List (String × Int64)) :
    (latest es).map (·.1) = (es.map (·.1)).dedup :=
  (List.pwFilter_map (R := (· ≠ ·)) (·.1) es).symm

theorem length_latest (es : List (String × Int64)) :
    (latest es).length = (es.map (·.1)).dedup.length := by
  rw [← keys_latest, List.length_map]

theorem length_latest_le (es : List (String × Int64)) : (latest es).length ≤ es.length :=
  (List.pwFilter_sublist es).length_le

@[simp] theorem value?_nil (key : String) : value? [] key = none := rfl

theorem value?_append_singleton (es : List (String × Int64)) (e : String × Int64) (key : String) :
    value? (es ++ [e]) key = if e.1 = key then some e.2 else value? es key := by
  by_cases h : e.1 = key <;> simp [value?, List.filter_append, h]

theorem mem_latest {es : List (String × Int64)} {key : String} {value : Int64} :
    (key, value) ∈ latest es ↔ value? es key = some value := by
  induction es using List.reverseRecOn with
  | nil => simp [latest]
  | append_singleton es e ih =>
    rw [latest_append_singleton, value?_append_singleton, List.mem_append, List.mem_filter, ih,
      List.mem_singleton]
    by_cases h : e.1 = key
    · subst h
      simp [Prod.ext_iff, eq_comm]
    · simp [h, Prod.ext_iff, eq_comm (a := key)]

theorem value?_eq_none {es : List (String × Int64)} {key : String} :
    value? es key = none ↔ key ∉ es.map (·.1) := by
  rw [value?, Option.map_eq_none_iff, List.getLast?_eq_none_iff, List.filter_eq_nil_iff]
  constructor
  · intro h hk
    obtain ⟨e, he, rfl⟩ := List.mem_map.mp hk
    exact h e he (decide_eq_true rfl)
  · intro h e he hk
    exact h (List.mem_map.mpr ⟨e, he, of_decide_eq_true hk⟩)

theorem exists_value?_iff {es : List (String × Int64)} {key : String} :
    (∃ value, value? es key = some value) ↔ key ∈ es.map (·.1) := by
  rw [← Option.ne_none_iff_exists', ne_eq, value?_eq_none, not_not]

/-- What was given for other keys does not count. -/
theorem value?_congr {es fs : List (String × Int64)} {key : String}
    (h : es.filter (·.1 = key) = fs.filter (·.1 = key)) : value? es key = value? fs key := by
  rw [value?, h]
  rfl

theorem value?_append (es fs : List (String × Int64)) (key : String) :
    value? (es ++ fs) key = (value? fs key).or (value? es key) := by
  rw [value?, List.filter_append, List.getLast?_append, Option.map_or]
  rfl

/-- A value that was given late enough is the last one. -/
theorem value?_of_suffix {es fs : List (String × Int64)} (h : fs <:+ es) {key : String}
    {value : Int64} (hv : value? fs key = some value) : value? es key = some value := by
  obtain ⟨gs, rfl⟩ := h
  rw [value?_append, hv]
  rfl

/-! ## The newest entries -/

theorem newest_suffix (capacity : Int) (es : List (String × Int64)) : newest capacity es <:+ es :=
  List.drop_suffix _ es

theorem excess_of_nonpos {capacity : Int} (h : capacity ≤ 0) (n : Nat) : excess capacity n = 0 :=
  if_neg (by omega)

theorem excess_of_le {capacity : Int} {n : Nat} (h : n ≤ capacity) : excess capacity n = 0 := by
  unfold excess
  split <;> omega

theorem newest_eq_self {capacity : Int} {es : List (String × Int64)}
    (h : excess capacity es.length = 0) : newest capacity es = es := by
  rw [newest, h, List.drop_zero]

theorem newest_natCast {n : Nat} (h : 0 < n) (es : List (String × Int64)) :
    newest n es = es.rtake n := by
  rw [newest, excess, if_pos (by omega), Int.toNat_natCast]
  rfl

theorem length_rtake {α : Type} (l : List α) (n : Nat) : (l.rtake n).length = min n l.length := by
  rw [List.rtake, List.length_drop]
  omega

theorem rtake_of_length_le {α : Type} {l : List α} {n : Nat} (h : l.length ≤ n) :
    l.rtake n = l := by
  rw [List.rtake, Nat.sub_eq_zero_of_le h, List.drop_zero]

/-- The end of a list is found in each of its suffixes that are long enough. -/
theorem rtake_eq_of_suffix {α : Type} {l m : List α} {n : Nat} (h : l <:+ m) (hn : n ≤ l.length) :
    l.rtake n = m.rtake n := by
  obtain ⟨k, rfl⟩ := h
  have hk : k.length + l.length - n = k.length + (l.length - n) := by omega
  rw [List.rtake, List.rtake, List.length_append, hk, List.drop_length_add_append]

/-- No key takes more than one place. -/
theorem length_le_length_filter {es : List (String × Int64)} (h : (es.map (·.1)).Nodup)
    (key : String) : es.length ≤ (es.filter (·.1 ≠ key)).length + 1 := by
  have hc := List.nodup_iff_count_le_one.mp h key
  have hl := List.length_eq_countP_add_countP (fun e : String × Int64 => e.1 == key) (l := es)
  have hf : es.countP (fun e => ¬(e.1 == key) = true) = (es.filter (·.1 ≠ key)).length := by
    rw [List.countP_eq_length_filter]
    simp
  rw [List.count, List.countP_map] at hc
  rw [hl, hf, Nat.add_comm]
  exact Nat.add_le_add_left hc _

/-- Entries that are dropped before an addition would be dropped after it. -/
theorem newest_filter_newest {es : List (String × Int64)} (h : (es.map (·.1)).Nodup)
    (capacity : Int) (e : String × Int64) :
    newest capacity ((newest capacity es).filter (·.1 ≠ e.1) ++ [e]) =
      newest capacity (es.filter (·.1 ≠ e.1) ++ [e]) := by
  by_cases hc : capacity ≤ 0
  · rw [newest_eq_self (excess_of_nonpos hc es.length)]
  obtain ⟨n, rfl⟩ : ∃ n : Nat, capacity = (n + 1 : Nat) := ⟨capacity.toNat - 1, by omega⟩
  simp only [newest_natCast n.succ_pos, List.rtake_concat_succ]
  by_cases hl : es.length ≤ n + 1
  · rw [rtake_of_length_le hl]
  have hs : es.rtake (n + 1) <:+ es := List.drop_suffix _ es
  have hn : n ≤ ((es.rtake (n + 1)).filter (·.1 ≠ e.1)).length := by
    have hd := length_le_length_filter ((hs.map (·.1)).sublist.nodup h) e.1
    rw [length_rtake] at hd
    omega
  rw [rtake_eq_of_suffix (hs.filter _) hn]

/-! ## Cutting first

The last additions do not make the newest entries: a key that was added again takes the place of
another one.
-/

theorem length_newest (capacity : Int) (es : List (String × Int64)) :
    (newest capacity es).length = es.length - excess capacity es.length := List.length_drop

theorem length_newest_le {capacity : Int} (h : 0 < capacity) (es : List (String × Int64)) :
    (newest capacity es).length ≤ capacity.toNat := by
  rw [length_newest, excess, if_pos h]
  omega

/-- The last additions alone never exceed the capacity. -/
theorem newest_latest_newest (capacity : Int) (es : List (String × Int64)) :
    newest capacity (latest (newest capacity es)) = latest (newest capacity es) := by
  apply newest_eq_self
  by_cases h : 0 < capacity
  · have hle := (length_latest_le (newest capacity es)).trans (length_newest_le h es)
    exact excess_of_le (by omega)
  · exact excess_of_nonpos (by omega) _

/-- The last additions alone leave the newest entries, but not always all of them. -/
theorem latest_newest_suffix (capacity : Int) (es : List (String × Int64)) :
    latest (newest capacity es) <:+ newest capacity (latest es) := by
  have hsuffix : latest (newest capacity es) <:+ latest es := by
    have h := latest_suffix_append (es.take (excess capacity es.length)) (newest capacity es)
    rwa [newest, List.take_append_drop] at h
  apply List.suffix_of_suffix_length_le hsuffix (newest_suffix capacity _)
  have hle := hsuffix.length_le
  rw [length_newest capacity (latest es)]
  by_cases h : 0 < capacity
  · have hcut := (length_latest_le (newest capacity es)).trans (length_newest_le h es)
    rw [excess, if_pos h]
    omega
  · rwa [excess_of_nonpos (by omega), Nat.sub_zero]

/-- They leave all of them exactly if they are of as many keys. -/
theorem latest_newest_eq_iff (capacity : Int) (es : List (String × Int64)) :
    latest (newest capacity es) = newest capacity (latest es) ↔
      (latest (newest capacity es)).length = (newest capacity (latest es)).length := by
  constructor
  · intro h
    exact congrArg _ h
  · intro h
    exact (latest_newest_suffix capacity es).eq_of_length h

theorem latest_newest_of_length_le {capacity : Int} {es : List (String × Int64)}
    (h : es.length ≤ capacity) : latest (newest capacity es) = newest capacity (latest es) := by
  have hle := length_latest_le es
  rw [newest_eq_self (excess_of_le h), newest_eq_self (excess_of_le (by omega))]

theorem latest_newest_of_nodup {capacity : Int} (hpos : 0 < capacity) {es : List (String × Int64)}
    (h : ((newest capacity es).map (·.1)).Nodup) :
    latest (newest capacity es) = newest capacity (latest es) := by
  by_cases hle : (es.length : Int) ≤ capacity
  · exact latest_newest_of_length_le hle
  · apply (latest_newest_suffix capacity es).eq_of_length_le
    have hnew := length_newest_le hpos (latest es)
    rw [latest_eq_self h, length_newest capacity es, excess, if_pos hpos]
    omega

/-! ## A cache after additions -/

@[simp] theorem addAll_nil (c : RecencyCache) : c.addAll [] = c := rfl

theorem addAll_append (c : RecencyCache) (es fs : List (String × Int64)) :
    c.addAll (es ++ fs) = (c.addAll es).addAll fs := List.foldl_append

@[simp] theorem capacity_addAll (c : RecencyCache) (es : List (String × Int64)) :
    (c.addAll es).capacity = c.capacity := by
  induction es generalizing c with
  | nil => rfl
  | cons e es ih => exact (ih _).trans (capacity_add c e.1 e.2)

/-- The keys of a cache are different, so each has its latest entry in it. -/
theorem latest_entries (c : RecencyCache) : latest c.entries = c.entries :=
  latest_eq_self c.nodup_keys

theorem Bounded.newest_entries {c : RecencyCache} (h : c.Bounded) :
    newest c.capacity c.entries = c.entries :=
  newest_eq_self (by rw [length_entries]; exact h)

/-- An addition to a cache that holds the newest of the latest entries leaves these, with the one
that is added. -/
theorem entries_add_of_newest {c : RecencyCache} {es : List (String × Int64)}
    (h : c.entries = newest c.capacity (latest es)) (e : String × Int64) :
    (c.add e.1 e.2).entries = newest c.capacity (latest (es ++ [e])) :=
  calc
    (c.add e.1 e.2).entries
      = newest c.capacity (c.entries.filter (·.1 ≠ e.1) ++ [e]) := entries_add c e.1 e.2
    _ = newest c.capacity (latest (es ++ [e])) := by
        rw [h, newest_filter_newest (nodup_keys_latest es), latest_append_singleton]

/-- A cache holds the newest of the latest entries among those that it held and those added. -/
theorem entries_addAll {c : RecencyCache} (h : c.Bounded) (es : List (String × Int64)) :
    (c.addAll es).entries = newest c.capacity (latest (c.entries ++ es)) := by
  -- From the end, because a cut made before the last addition would be made after it as well.
  induction es using List.reverseRecOn with
  | nil => rw [addAll_nil, List.append_nil, latest_entries, h.newest_entries]
  | append_singleton es e ih =>
    rw [← capacity_addAll c es] at ih
    rw [addAll_append, ← List.append_assoc, ← capacity_addAll c es]
    exact entries_add_of_newest ih e

/-- It makes no difference how many times entries are added, if they are added at all. -/
theorem entries_addAll_replicate {c : RecencyCache} (h : c.Bounded) (es : List (String × Int64))
    (n : Nat) :
    (c.addAll (List.replicate (n + 1) es).flatten).entries = (c.addAll es).entries := by
  rw [entries_addAll h, latest_append_replicate, ← entries_addAll h]

/-- No cache holds anything but what it held or was given last for a key. -/
theorem entries_addAll_subset (c : RecencyCache) (es : List (String × Int64)) :
    (c.addAll es).entries ⊆ latest (c.entries ++ es) := by
  induction es using List.reverseRecOn with
  | nil =>
    rw [addAll_nil, List.append_nil, latest_entries]
    exact List.Subset.refl _
  | append_singleton es e ih =>
    have hcut : (c.addAll (es ++ [e])).entries ⊆
        (c.addAll es).entries.filter (·.1 ≠ e.1) ++ [e] := by
      rw [addAll_append]
      exact (entries_add (c.addAll es) e.1 e.2).symm ▸ List.drop_subset _ _
    rw [← List.append_assoc, latest_append_singleton]
    intro f hf
    rcases List.mem_append.mp (hcut hf) with hold | hnew
    · obtain ⟨hmem, hne⟩ := List.mem_filter.mp hold
      exact List.mem_append_left _ (List.mem_filter.mpr ⟨ih hmem, hne⟩)
    · exact List.mem_append_right _ hnew

theorem bounded_of_nonpos {c : RecencyCache} (h : c.capacity ≤ 0) : c.Bounded :=
  excess_of_nonpos h c.size

/-- A cache never holds too many entries after an addition. -/
theorem bounded_add (c : RecencyCache) (key : String) (value : Int64) :
    (c.add key value).Bounded := by
  rw [Bounded, ← length_entries, entries_add, capacity_add]
  dsimp only
  rw [List.length_drop]
  unfold excess
  split <;> omega

theorem bounded_of_entries_eq_nil {c : RecencyCache} (h : c.entries = []) : c.Bounded := by
  have hs : c.size = 0 := by rw [← length_entries, h, List.length_nil]
  rw [Bounded, hs, excess]
  split <;> omega

/-- What was added to an empty cache is all that it can hold. -/
theorem entries_addAll_of_empty {c : RecencyCache} (h : c.entries = [])
    (es : List (String × Int64)) : (c.addAll es).entries = newest c.capacity (latest es) := by
  rw [entries_addAll (bounded_of_entries_eq_nil h), h, List.nil_append]

end RecencyCache

end PositionLog
