import Std.Data.ExtTreeMap.Lemmas

/-! # Slots

Values in numbered places, all but finitely many of which are empty. Slots that hold the same are
equal, and they are listed in ascending order of their numbers.
-/

namespace PositionLog

structure Slots (α : Type) where
  tree : Std.ExtTreeMap Nat α := {}
deriving DecidableEq, Repr, Inhabited

namespace Slots

variable {α : Type}

def get? (s : Slots α) (i : Nat) : Option α := s.tree[i]?

def getD (s : Slots α) (i : Nat) (otherwise : α) : α := (s.get? i).getD otherwise

def set (s : Slots α) (i : Nat) (a : α) : Slots α := ⟨s.tree.insert i a⟩

def erase (s : Slots α) (i : Nat) : Slots α := ⟨s.tree.erase i⟩

/-- How many values there are. -/
def size (s : Slots α) : Nat := s.tree.size

/-- The values with their numbers, in ascending order. -/
def toList (s : Slots α) : List (Nat × α) := s.tree.toList

/-- The entry of the least number. The pass over the entries ends with the one that it meets. -/
def first? (s : Slots α) : Option (Nat × α) :=
  match s.tree.foldlM (fun _ i a => Except.error (i, a)) () with
  | .error e => some e
  | .ok () => none

@[ext] theorem ext {s t : Slots α} (h : ∀ i, s.get? i = t.get? i) : s = t := by
  obtain ⟨s⟩ := s
  obtain ⟨t⟩ := t
  exact congrArg mk (Std.ExtTreeMap.ext_getElem? h)

@[simp] theorem get?_empty (i : Nat) : ({} : Slots α).get? i = none := by simp [get?]

theorem get?_set (s : Slots α) (i j : Nat) (a : α) :
    (s.set i a).get? j = if i = j then some a else s.get? j := by
  simp [get?, set, Std.ExtTreeMap.getElem?_insert]

theorem get?_erase (s : Slots α) (i j : Nat) :
    (s.erase i).get? j = if i = j then none else s.get? j := by
  simp [get?, erase, Std.ExtTreeMap.getElem?_erase]

theorem getD_set (s : Slots α) (i j : Nat) (a otherwise : α) :
    (s.set i a).getD j otherwise = if i = j then a else s.getD j otherwise := by
  rw [getD, get?_set]; split <;> simp [getD]

@[simp] theorem getD_empty (i : Nat) (otherwise : α) :
    ({} : Slots α).getD i otherwise = otherwise := by simp [getD]

@[simp] theorem toList_empty : ({} : Slots α).toList = [] := by simp [toList]

@[simp] theorem length_toList (s : Slots α) : s.toList.length = s.size :=
  Std.ExtTreeMap.length_toList

theorem mem_toList {s : Slots α} {i : Nat} {a : α} : (i, a) ∈ s.toList ↔ s.get? i = some a :=
  Std.ExtTreeMap.mem_toList_iff_getElem?_eq_some

theorem pairwise_toList (s : Slots α) : s.toList.Pairwise fun e f => e.1 < f.1 := by
  simpa [toList, Nat.compare_eq_lt] using s.tree.ordered_keys_toList

/-- Only one list has the entries of given slots in ascending order. -/
theorem toList_eq_of_mem {s : Slots α} {l : List (Nat × α)}
    (h : l.Pairwise fun e f => e.1 < f.1) (hm : ∀ i a, (i, a) ∈ l ↔ s.get? i = some a) :
    s.toList = l := by
  have nodup {l : List (Nat × α)} (h : l.Pairwise fun e f => e.1 < f.1) : l.Nodup :=
    h.imp fun h e => by simp [e] at h
  refine List.Perm.eq_of_pairwise (fun a b _ _ h h' => ?_)
    s.pairwise_toList h
    ((List.perm_ext_iff_of_nodup (nodup s.pairwise_toList) (nodup h)).mpr fun e => ?_)
  · omega
  · obtain ⟨i, a⟩ := e
    rw [mem_toList, hm]

theorem toList_erase (s : Slots α) (i : Nat) :
    (s.erase i).toList = s.toList.filter (·.1 ≠ i) := by
  refine toList_eq_of_mem (s.pairwise_toList.filter _) fun j a => ?_
  simp only [List.mem_filter, mem_toList, get?_erase]
  grind

/-- A value in a place after all others is the last one. -/
theorem toList_set_of_lt {s : Slots α} {i : Nat} (h : ∀ j a, s.get? j = some a → j < i) (a : α) :
    (s.set i a).toList = s.toList ++ [(i, a)] := by
  refine toList_eq_of_mem ?_ fun j b => ?_
  · refine List.pairwise_append.mpr ⟨s.pairwise_toList, by simp, fun e he f hf => ?_⟩
    obtain rfl := List.mem_singleton.mp hf
    exact h e.1 e.2 (mem_toList.mp he)
  · have := h j b
    simp only [List.mem_append, mem_toList, List.mem_singleton, get?_set, Prod.mk.injEq]
    grind

theorem first?_eq (s : Slots α) : s.first? = s.toList.head? := by
  simp only [first?, toList, Std.ExtTreeMap.foldlM_eq_foldlM_toList]
  cases s.tree.toList <;> rfl

end Slots

end PositionLog
