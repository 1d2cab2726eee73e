import PositionLog.Proofs.History
import PositionLog.Proofs.Recency

/-!
# A recency cache over time

Whatever was added to a cache and however often it was cleared, it is known from what was added
since it was cleared last: it holds the different keys, in the order in which they were added last,
each with its last value, cut to as many of the newest as it may hold.
-/

namespace PositionLog.RecencyCache

/-! ## The last values -/

/-- The entries of some keys, with the values that were given last for them. -/
def lastValues (adds : List (String × Int64)) (keys : List String) : List (String × Int64) :=
  keys.filterMap fun key => (value? adds key).map (key, ·)

/-- The keys that are left in a cache of this capacity: each where it was added last, and no more
than the newest of them, if there is a bound. -/
def keptKeys (capacity : Int) (adds : List (String × Int64)) : List String :=
  let keys := (adds.map (·.1)).dedup
  if 1 ≤ capacity then keys.rtake capacity.toNat else keys

theorem lastValues_keys {adds es : List (String × Int64)} (h : es ⊆ latest adds) :
    lastValues adds (es.map (·.1)) = es := by
  have hlast : ∀ e ∈ es, (value? adds e.1).map (e.1, ·) = some e := by
    intro e he
    rw [mem_latest.mp (h he)]
    rfl
  rw [lastValues, List.filterMap_map]
  exact (List.filterMap_congr hlast).trans List.filterMap_some

theorem keys_newest_latest (capacity : Int) (adds : List (String × Int64)) :
    (newest capacity (latest adds)).map (·.1) = keptKeys capacity adds := by
  rw [newest, List.map_drop, keys_latest, length_latest, keptKeys]
  by_cases h : 1 ≤ capacity
  · rw [excess, if_pos (by omega), if_pos h]
    rfl
  · rw [excess_of_nonpos (by omega), if_neg h, List.drop_zero]

theorem newest_latest (capacity : Int) (adds : List (String × Int64)) :
    newest capacity (latest adds) = lastValues adds (keptKeys capacity adds) := by
  rw [← keys_newest_latest, lastValues_keys (newest_suffix capacity _).subset]

/-! ## Which keys are left -/

theorem getLast?_latest (es : List (String × Int64)) : (latest es).getLast? = es.getLast? := by
  induction es using List.reverseRecOn with
  | nil => rfl
  | append_singleton es e _ =>
    rw [latest_append_singleton, List.getLast?_concat, List.getLast?_concat]

/-- The newest entry is never cut off. -/
theorem getLast?_newest (capacity : Int) (es : List (String × Int64)) :
    (newest capacity es).getLast? = es.getLast? := by
  have hcut : ¬ es.length ≤ excess capacity es.length ∨ es = [] := by
    rw [← List.length_eq_zero_iff, excess]
    split <;> omega
  rcases hcut with hcut | rfl
  · rw [newest, List.getLast?_drop, if_neg hcut]
  · rw [newest, List.drop_nil]

/-- If a key was not added again, all that comes after it are the other keys added since. -/
theorem latest_append_cons {key : String} {after : List (String × Int64)}
    (h : key ∉ after.map (·.1)) (before : List (String × Int64)) (value : Int64) :
    ∃ es, latest (before ++ (key, value) :: after) = es ++ (key, value) :: latest after := by
  have hnew : ∀ e ∈ latest after, key ≠ e.1 := by
    rintro e he rfl
    exact h (List.mem_map_of_mem ((List.pwFilter_sublist after).subset he))
  refine ⟨(latest before).filter (·.1 ∉ ((key, value) :: after).map (·.1)), ?_⟩
  rw [latest_append, latest_cons, if_pos hnew]

/-- An entry is cut off exactly if there are as many newer ones as there may be entries. -/
theorem cons_suffix_newest {capacity : Int} {fs : List (String × Int64)}
    (h : capacity ≤ 0 ∨ fs.length < capacity) (es : List (String × Int64)) (e : String × Int64) :
    e :: fs <:+ newest capacity (es ++ e :: fs) := by
  apply List.suffix_of_suffix_length_le (List.suffix_append es _) (newest_suffix capacity _)
  rw [length_newest, excess, List.length_append]
  split <;> simp only [List.length_cons] <;> omega

theorem newest_suffix_of_le {capacity : Int} {fs : List (String × Int64)} (hpos : 0 < capacity)
    (h : capacity ≤ fs.length) (es : List (String × Int64)) (e : String × Int64) :
    newest capacity (es ++ e :: fs) <:+ fs := by
  have hfs : fs <:+ es ++ e :: fs := (List.suffix_cons e fs).trans (List.suffix_append es _)
  apply List.suffix_of_suffix_length_le (newest_suffix capacity _) hfs
  have hle := length_newest_le hpos (es ++ e :: fs)
  omega

theorem get?_eq_value? (c : RecencyCache) (key : String) : c.get? key = value? c.entries key := by
  apply Option.ext
  intro value
  rw [← mem_entries, ← mem_latest, latest_entries]

/-- The last value of a key is found as long as there are fewer newer keys than there may be. -/
theorem value?_newest_latest {key : String} {after : List (String × Int64)}
    (h : key ∉ after.map (·.1)) (capacity : Int) (before : List (String × Int64)) (value : Int64) :
    value? (newest capacity (latest (before ++ (key, value) :: after))) key =
      if capacity ≤ 0 ∨ ((after.map (·.1)).dedup.length : Int) < capacity then some value
      else none := by
  obtain ⟨es, hlatest⟩ := latest_append_cons h before value
  have hkey : key ∉ (latest after).map (·.1) := by rwa [keys_latest, List.mem_dedup]
  rw [hlatest, ← length_latest]
  split
  · have hfits := cons_suffix_newest ‹_› es (key, value)
    apply value?_of_suffix hfits
    rw [← List.singleton_append, value?_append, value?_eq_none.mpr hkey]
    simp [value?]
  · have hfull : 0 < capacity ∧ capacity ≤ (latest after).length := by omega
    have hcut := newest_suffix_of_le hfull.1 hfull.2 es (key, value)
    exact value?_eq_none.mpr fun hmem => hkey ((hcut.map (·.1)).subset hmem)

/-! ## What happens to a cache -/

/-- What changes a cache. -/
inductive Change where
  | add (key : String) (value : Int64)
  | clear

namespace Change

def run (c : RecencyCache) : Change → RecencyCache
  | add key value => c.add key value
  | clear => c.clear

def isClear : Change → Bool
  | clear => true
  | add .. => false

def added? : Change → Option (String × Int64)
  | add key value => some (key, value)
  | clear => none

/-- What was added since a cache was cleared last. -/
def sinceClear (hist : List Change) : List (String × Int64) := History.left isClear added? hist

end Change

open Change (sinceClear)

/-- A cache that was empty, after some changes. -/
def changed (capacity : Int) (hist : List Change) : RecencyCache :=
  hist.foldl Change.run (new capacity)

theorem changed_append_singleton (capacity : Int) (hist : List Change) (x : Change) :
    changed capacity (hist ++ [x]) = x.run (changed capacity hist) := by
  rw [changed, List.foldl_append]
  rfl

@[simp] theorem Change.capacity_run (c : RecencyCache) (x : Change) :
    (x.run c).capacity = c.capacity := by
  cases x with
  | add key value => exact capacity_add c key value
  | clear => rfl

@[simp] theorem capacity_changed (capacity : Int) (hist : List Change) :
    (changed capacity hist).capacity = capacity := by
  induction hist using List.reverseRecOn with
  | nil => rfl
  | append_singleton hist x ih => rw [changed_append_singleton, Change.capacity_run, ih]

theorem Change.bounded_run (c : RecencyCache) (x : Change) : (x.run c).Bounded := by
  cases x with
  | add key value => exact bounded_add c key value
  | clear => exact bounded_of_entries_eq_nil (entries_clear c)

theorem bounded_changed (capacity : Int) (hist : List Change) :
    (changed capacity hist).Bounded := by
  cases hist using List.reverseRecOn with
  | nil => exact bounded_of_entries_eq_nil (entries_new capacity)
  | append_singleton hist x =>
    rw [changed_append_singleton]
    exact Change.bounded_run _ x

/-- A change keeps a cache to the newest of the latest entries. -/
theorem Change.entries_run {c : RecencyCache} {hist : List Change}
    (h : c.entries = newest c.capacity (latest (sinceClear hist))) (x : Change) :
    (x.run c).entries = newest c.capacity (latest (sinceClear (hist ++ [x]))) := by
  rw [sinceClear, History.left_append_singleton]
  cases x with
  | add key value => exact entries_add_of_newest h (key, value)
  | clear => exact (entries_clear c).trans List.drop_nil.symm

theorem entries_changed (capacity : Int) (hist : List Change) :
    (changed capacity hist).entries = newest capacity (latest (sinceClear hist)) := by
  induction hist using List.reverseRecOn with
  | nil => exact (entries_new capacity).trans List.drop_nil.symm
  | append_singleton hist x ih =>
    have hnow : (changed capacity hist).entries =
        newest (changed capacity hist).capacity (latest (sinceClear hist)) := by
      rw [ih, capacity_changed]
    rw [changed_append_singleton, Change.entries_run hnow, capacity_changed]

/-- What was not too much does not become too much by more than one entry. -/
theorem Bounded.excess_touch {c : RecencyCache} (h : c.Bounded) (key : String) (value : Int64) :
    excess c.capacity (c.touch key value).size ≤ 1 := by
  by_cases hpos : 0 < c.capacity
  · have hle := List.length_filter_le (·.1 ≠ key) c.entries
    rw [length_entries] at hle
    rw [Bounded, excess, if_pos hpos] at h
    rw [← length_entries, entries_touch, List.length_append, List.length_singleton, excess,
      if_pos hpos]
    omega
  · rw [excess, if_neg hpos]
    exact Nat.zero_le 1

/-- So an addition drops the oldest entry, or nothing. -/
theorem Bounded.add_eq {c : RecencyCache} (h : c.Bounded) (key : String) (value : Int64) :
    c.add key value = c.touch key value ∨ c.add key value = (c.touch key value).dropOldest := by
  have hle : excess (c.touch key value).capacity (c.touch key value).size ≤ 1 :=
    h.excess_touch key value
  rcases Nat.le_one_iff_eq_zero_or_eq_one.mp hle with hnone | hone
  · left
    rw [add, hnone]
    rfl
  · right
    rw [add, hone]
    rfl

/-- A cache that was empty holds the keys added since it was cleared last, in the order in which
they were added last and each with its last value, cut to the newest of them if there is a bound.
So no key is found twice, there are never too many entries, the newest one is what was added last,
and one more addition drops the oldest entry at most.  A key is found with its last value exactly if
fewer other keys were added after it than there may be entries, or there is no bound. -/
theorem changed_entries_eq (capacity : Int) (hist : List Change) :
    let c := changed capacity hist
    let adds := sinceClear hist
    c.entries = lastValues adds (keptKeys capacity adds) ∧
    c.entries.map (·.1) = keptKeys capacity adds ∧
    (c.entries.map (·.1)).Nodup ∧
    (0 < capacity → c.size ≤ capacity) ∧
    c.entries.getLast? = adds.getLast? ∧
    (∀ key value,
      c.add key value = c.touch key value ∨
      c.add key value = (c.touch key value).dropOldest) ∧
    (∀ before key value after, adds = before ++ (key, value) :: after → key ∉ after.map (·.1) →
      c.get? key =
        if capacity ≤ 0 ∨ ((after.map (·.1)).dedup.length : Int) < capacity then some value
        else none) ∧
    (∀ key, key ∉ adds.map (·.1) → c.get? key = none) := by
  intro c adds
  have hentries : c.entries = newest capacity (latest adds) := entries_changed capacity hist
  refine ⟨?_, ?_, c.nodup_keys, ?_, ?_, ?_, ?_, ?_⟩
  · rw [hentries, newest_latest]
  · rw [hentries, keys_newest_latest]
  · intro hpos
    have hle := length_newest_le hpos (latest adds)
    rw [← hentries, length_entries] at hle
    omega
  · rw [hentries, getLast?_newest, getLast?_latest]
  · exact (bounded_changed capacity hist).add_eq
  · intro before key value after hadds hlast
    rw [get?_eq_value?, hentries, hadds, value?_newest_latest hlast]
  · intro key hkey
    rw [get?_eq_value?, hentries, value?_eq_none]
    intro hmem
    obtain ⟨e, he, rfl⟩ := List.mem_map.mp hmem
    have hlatest : e ∈ latest adds := (newest_suffix capacity _).subset he
    exact hkey (List.mem_map_of_mem ((List.pwFilter_sublist adds).subset hlatest))

/-- A cache is cleared and given three other keys, and then the first of them again. -/
def refilled : List Change :=
  [.add "x" 0, .clear, .add "a" 1, .add "b" 2, .add "c" 3, .add "a" 4]

/-- With two places, the second key is dropped when the first one comes back. -/
theorem changed_entries_eq_of_refilled :
    let c := changed 2 refilled
    c.entries = [("c", 3), ("a", 4)] ∧ c.size ≤ 2 ∧ c.get? "a" = some 4 ∧ c.get? "b" = none ∧
      c.get? "x" = none := by
  intro c
  obtain ⟨hentries, -, -, hsize, -, -, hget, hnever⟩ := changed_entries_eq 2 refilled
  refine ⟨hentries.trans (by decide), by exact_mod_cast hsize (by decide), ?_, ?_, ?_⟩
  · exact hget [("a", 1), ("b", 2), ("c", 3)] "a" 4 [] (by decide) (by decide)
  · exact hget [("a", 1)] "b" 2 [("c", 3), ("a", 4)] (by decide) (by decide)
  · exact hnever "x" (by decide)

end PositionLog.RecencyCache
