import PositionLog.Slots

/-! # Recency caches

The latest values of the keys added last. Each addition has a number, and the entries are listed in
the order of their numbers, from the oldest to the newest.
-/

namespace PositionLog

/-- A capacity below one is no bound. -/
structure RecencyCache where
  capacity : Int
  /-- The entries by the numbers of their additions. -/
  added : Slots (String × Int64)
  /-- The number under which each key is found. -/
  places : Std.ExtTreeMap String Nat
  /-- The number of the next addition. -/
  next : Nat
  added_lt : ∀ i e, added.get? i = some e → i < next
  places_iff : ∀ k i, places[k]? = some i ↔ ∃ v, added.get? i = some (k, v)
deriving Repr

namespace RecencyCache

/-- A cache without entries. -/
def new (capacity : Int) : RecencyCache where
  capacity
  added := {}
  places := {}
  next := 0
  added_lt := by simp
  places_iff := by simp

instance : Inhabited RecencyCache := ⟨new 0⟩

def entries (c : RecencyCache) : List (String × Int64) := c.added.toList.map (·.2)

def size (c : RecencyCache) : Nat := c.added.size

def isEmpty (c : RecencyCache) : Bool := c.size = 0

def get? (c : RecencyCache) (key : String) : Option Int64 := do
  let e ← c.added.get? (← c.places[key]?)
  return e.2

/-- How many records of each partition may matter to a cache that is filled from a log; `0` if
all of them may. -/
def replayDepth (c : RecencyCache) : Nat := if 1 ≤ c.capacity then c.capacity.toNat else 0

def clear (c : RecencyCache) : RecencyCache := new c.capacity

/-- The entries without the one of a key. -/
def others (c : RecencyCache) (key : String) : Slots (String × Int64) :=
  match c.places[key]? with
  | none => c.added
  | some i => c.added.erase i

theorem get?_others (c : RecencyCache) (key : String) (i : Nat) (e : String × Int64) :
    (c.others key).get? i = some e ↔ c.added.get? i = some e ∧ e.1 ≠ key := by
  obtain ⟨k, v⟩ := e
  have own := c.places_iff key
  have other := c.places_iff k i
  unfold others
  split
  · grind
  · rw [Slots.get?_erase]
    grind

/-- Makes `key` the newest entry, with this value. -/
def touch (c : RecencyCache) (key : String) (value : Int64) : RecencyCache where
  capacity := c.capacity
  added := (c.others key).set c.next (key, value)
  places := c.places.insert key c.next
  next := c.next + 1
  added_lt i e := by
    have := c.added_lt i
    have := c.get?_others key i
    rw [Slots.get?_set]
    grind
  places_iff k i := by
    have lt := c.added_lt i
    have others := c.get?_others key i
    have iff := c.places_iff k i
    rw [Std.ExtTreeMap.getElem?_insert, Slots.get?_set]
    simp only [Std.LawfulEqCmp.compare_eq_iff_eq]
    by_cases c.next = i <;> by_cases key = k <;> simp_all
    grind

/-- Drops the oldest entry. -/
def dropOldest (c : RecencyCache) : RecencyCache :=
  match h : c.added.first? with
  | none => c
  | some (i, key, _) => { c with
      added := c.added.erase i
      places := c.places.erase key
      added_lt := by
        intro j e
        rw [Slots.get?_erase]
        have := c.added_lt j e
        grind
      places_iff := by
        intro k j
        have first := Slots.mem_toList.mp (List.mem_of_mem_head? (c.added.first?_eq ▸ h))
        have place := (c.places_iff key i).mpr ⟨_, first⟩
        have iff := c.places_iff k j
        rw [Slots.get?_erase, Std.ExtTreeMap.getElem?_erase]
        simp only [Std.LawfulEqCmp.compare_eq_iff_eq]
        grind }

/-- Drops the `n` oldest entries. -/
def drop (n : Nat) (c : RecencyCache) : RecencyCache :=
  match n with
  | 0 => c
  | n + 1 => c.dropOldest.drop n

/-- How many of `n` entries are too many. -/
def excess (capacity : Int) (n : Nat) : Nat :=
  if 0 < capacity then n - capacity.toNat else 0

/-- Makes `key` the newest entry, with this value, and drops the oldest entries in excess. -/
def add (c : RecencyCache) (key : String) (value : Int64) : RecencyCache :=
  let c := c.touch key value
  c.drop (excess c.capacity c.size)

theorem entries_new (capacity : Int) : (new capacity).entries = [] := by simp [new, entries]

theorem entries_clear (c : RecencyCache) : c.clear.entries = [] := entries_new c.capacity

theorem length_entries (c : RecencyCache) : c.entries.length = c.size := by simp [entries, size]

theorem mem_entries {c : RecencyCache} {key : String} {value : Int64} :
    (key, value) ∈ c.entries ↔ c.get? key = some value := by
  have own := c.places_iff key
  simp only [entries, List.mem_map, Prod.exists, Slots.mem_toList, get?]
  constructor
  · rintro ⟨i, k, v, h, e⟩
    obtain ⟨rfl, rfl⟩ := Prod.mk.inj e
    simp [(own i).mpr ⟨v, h⟩, h]
  · intro h
    obtain ⟨i, hi, h⟩ := Option.bind_eq_some_iff.mp h
    grind

/-- No key has two entries. -/
theorem nodup_keys (c : RecencyCache) : (c.entries.map (·.1)).Nodup := by
  rw [entries, List.map_map, List.Nodup, List.pairwise_map]
  refine List.Pairwise.imp_of_mem (fun he hf lt eq => ?_) c.added.pairwise_toList
  rename_i e f
  obtain ⟨i, k, v⟩ := e
  obtain ⟨j, l, w⟩ := f
  have hi := (c.places_iff k i).mpr ⟨v, Slots.mem_toList.mp he⟩
  have hj := (c.places_iff l j).mpr ⟨w, Slots.mem_toList.mp hf⟩
  simp at lt eq
  grind

theorem toList_others (c : RecencyCache) (key : String) :
    (c.others key).toList = c.added.toList.filter (·.2.1 ≠ key) := by
  refine Slots.toList_eq_of_mem (c.added.pairwise_toList.filter _) fun i e => ?_
  simp [Slots.mem_toList, get?_others]

theorem entries_touch (c : RecencyCache) (key : String) (value : Int64) :
    (c.touch key value).entries = c.entries.filter (·.1 ≠ key) ++ [(key, value)] := by
  have lt : ∀ j e, (c.others key).get? j = some e → j < c.next := fun j e h =>
    c.added_lt j e ((c.get?_others key j e).mp h).1
  simp [entries, touch, Slots.toList_set_of_lt lt, toList_others, List.filter_map,
    Function.comp_def]

theorem entries_dropOldest (c : RecencyCache) : c.dropOldest.entries = c.entries.tail := by
  have sorted := c.added.pairwise_toList
  unfold dropOldest
  split <;> rename_i h <;> rw [Slots.first?_eq] at h
  · simp [entries, List.head?_eq_none_iff.mp h]
  · rename_i i key value _
    obtain ⟨r, hl⟩ := List.head?_eq_some_iff.mp h
    rw [hl, List.pairwise_cons] at sorted
    have others : r.filter (·.1 ≠ i) = r := List.filter_eq_self.mpr fun e he => by
      have := sorted.1 e he
      simp at this ⊢
      omega
    simpa [entries, Slots.toList_erase, hl] using congrArg (List.map (·.2)) others

theorem entries_drop (n : Nat) (c : RecencyCache) : (c.drop n).entries = c.entries.drop n := by
  induction n generalizing c with
  | zero => rfl
  | succ n ih => rw [drop, ih, entries_dropOldest, List.drop_tail]

theorem capacity_drop (n : Nat) (c : RecencyCache) : (c.drop n).capacity = c.capacity := by
  induction n generalizing c with
  | zero => rfl
  | succ n ih => rw [drop, ih, dropOldest]; split <;> rfl

@[simp] theorem capacity_add (c : RecencyCache) (key : String) (value : Int64) :
    (c.add key value).capacity = c.capacity := by
  simp [add, capacity_drop, touch]

theorem entries_add (c : RecencyCache) (key : String) (value : Int64) :
    (c.add key value).entries =
      let es := c.entries.filter (·.1 ≠ key) ++ [(key, value)]
      es.drop (excess c.capacity es.length) := by
  simp only [add, entries_drop, ← length_entries, entries_touch]
  rfl

end RecencyCache

end PositionLog
