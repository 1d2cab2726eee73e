import PositionLog.Slots

/-! # Logs

What is in a log is found by its offset. A log grows at its end, and does not shrink. Logs that list
the same are equal.
-/

namespace PositionLog

structure Log (α : Type) where
  slots : Slots α
  size : Nat
  filled : ∀ i, (slots.get? i).isSome ↔ i < size
deriving DecidableEq, Repr

namespace Log

variable {α : Type}

instance : EmptyCollection (Log α) := ⟨⟨{}, 0, by simp⟩⟩

instance : Inhabited (Log α) := ⟨{}⟩

/-- Adds a value at the end. -/
def push (l : Log α) (a : α) : Log α where
  slots := l.slots.set l.size a
  size := l.size + 1
  filled i := by
    have := l.filled i
    rw [Slots.get?_set]
    grind

/-- The same value so many times. -/
def replicate (n : Nat) (a : α) : Log α := Nat.repeat (·.push a) n {}

/-- Puts a value at an offset, in place of what is there. There has to be something. -/
def set? (l : Log α) (i : Nat) (a : α) : Option (Log α) :=
  if h : i < l.size then some {
    slots := l.slots.set i a
    size := l.size
    filled j := by
      have := l.filled j
      rw [Slots.get?_set]
      grind }
  else none

def isEmpty (l : Log α) : Bool := l.size = 0

def get? (l : Log α) (offset : Nat) : Option α := l.slots.get? offset

/-- At most `count` values, from an offset on. -/
def slice (l : Log α) (start count : Nat) : List α :=
  (List.range' start (min count (l.size - start))).filterMap l.get?

def toList (l : Log α) : List α := (List.range l.size).filterMap l.get?

theorem isSome_get? {l : Log α} {i : Nat} : (l.get? i).isSome ↔ i < l.size := l.filled i

theorem get?_eq_none {l : Log α} {i : Nat} : l.get? i = none ↔ l.size ≤ i := by
  rw [← Option.not_isSome_iff_eq_none, isSome_get?, Nat.not_lt]

theorem get?_push (l : Log α) (a : α) (i : Nat) :
    (l.push a).get? i = if l.size = i then some a else l.get? i := Slots.get?_set ..

@[simp] theorem size_replicate (n : Nat) (a : α) : (replicate n a).size = n := by
  induction n with
  | zero => rfl
  | succ n ih => exact congrArg (· + 1) ih

theorem get?_replicate (n : Nat) (a : α) (i : Nat) :
    (replicate n a).get? i = if i < n then some a else none := by
  induction n with
  | zero => exact Slots.get?_empty i
  | succ n ih =>
    have hpush : replicate (n + 1) a = (replicate n a).push a := rfl
    rw [hpush, get?_push, ih, size_replicate]
    grind

theorem isSome_set? {l : Log α} {i : Nat} {a : α} : (l.set? i a).isSome ↔ i < l.size := by
  rw [set?]
  split <;> simp_all

theorem size_of_set? {l m : Log α} {i : Nat} {a : α} (h : l.set? i a = some m) :
    m.size = l.size := by
  rw [set?] at h
  split at h
  · cases h
    rfl
  · cases h

theorem get?_of_set? {l m : Log α} {i : Nat} {a : α} (h : l.set? i a = some m) (j : Nat) :
    m.get? j = if i = j then some a else l.get? j := by
  rw [set?] at h
  split at h
  · cases h
    exact Slots.get?_set ..
  · cases h

private theorem getElem?_filterMap_of_isSome {f : Nat → Option α} {is : List Nat}
    (h : ∀ i ∈ is, (f i).isSome) (j : Nat) : (is.filterMap f)[j]? = is[j]?.bind f := by
  induction is generalizing j with
  | nil => simp
  | cons i is ih =>
    obtain ⟨a, ha⟩ := Option.isSome_iff_exists.mp (h i (by simp))
    rw [List.filterMap_cons_some ha]
    cases j with
    | zero => simp [ha]
    | succ j => simpa using ih (fun i hi => h i (by simp [hi])) j

@[simp] theorem getElem?_toList (l : Log α) (i : Nat) : l.toList[i]? = l.get? i := by
  rw [toList, getElem?_filterMap_of_isSome fun i hi => isSome_get?.mpr (List.mem_range.mp hi)]
  have := get?_eq_none (l := l) (i := i)
  grind

@[simp] theorem toList_empty : ({} : Log α).toList = [] := rfl

@[simp] theorem length_toList (l : Log α) : l.toList.length = l.size := by
  have h (i : Nat) : l.toList.length ≤ i ↔ l.size ≤ i := by
    rw [← List.getElem?_eq_none_iff, getElem?_toList, get?_eq_none]
  exact Nat.le_antisymm ((h l.size).mpr (Nat.le_refl _)) ((h l.toList.length).mp (Nat.le_refl _))

/-- The values are in the places from the first to the last one. -/
theorem map_toList {β : Type} (l : Log α) (f : α → β) (otherwise : α) :
    l.toList.map f = (List.range l.size).map fun i => f ((l.get? i).getD otherwise) := by
  refine List.ext_getElem? fun i => ?_
  rw [List.getElem?_map, List.getElem?_map, getElem?_toList]
  by_cases h : i < l.size
  · obtain ⟨a, ha⟩ := Option.isSome_iff_exists.mp (isSome_get?.mpr h)
    simp [ha, h]
  · simp [get?_eq_none.mpr (Nat.not_lt.mp h), Nat.not_lt.mp h]

@[ext] theorem ext {l m : Log α} (h : l.toList = m.toList) : l = m := by
  have size : l.size = m.size := by rw [← length_toList, h, length_toList]
  have slots : l.slots = m.slots := by
    ext1 i
    exact (getElem?_toList l i).symm.trans (h ▸ getElem?_toList m i)
  cases l
  cases m
  simp_all

@[simp] theorem size_push (l : Log α) (a : α) : (l.push a).size = l.size + 1 := rfl

@[simp] theorem toList_push (l : Log α) (a : α) : (l.push a).toList = l.toList ++ [a] := by
  refine List.ext_getElem? fun i => ?_
  have := get?_eq_none (l := l) (i := i)
  simp only [getElem?_toList, List.getElem?_append, get?_push, length_toList]
  grind

theorem slice_eq (l : Log α) (start count : Nat) :
    l.slice start count = (l.toList.drop start).take count := by
  refine List.ext_getElem? fun j => ?_
  have := get?_eq_none (l := l) (i := start + j)
  rw [slice, getElem?_filterMap_of_isSome]
  · simp only [List.getElem?_take, List.getElem?_drop, getElem?_toList]
    grind
  · intro i hi
    exact isSome_get?.mpr (by simp only [List.mem_range'_1] at hi; omega)

end Log

end PositionLog
