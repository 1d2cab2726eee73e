/-! # Tables

Finite maps from names, written as their entries in ascending order of the names.
-/

namespace PositionLog

structure Table (α : Type) where
  entries : List (String × α) := []
deriving DecidableEq, Repr, Inhabited

namespace Table

variable {α : Type}

def lookup (k : String) : List (String × α) → Option α
  | [] => none
  | (k', v) :: r => if k = k' then some v else lookup k r

def place (k : String) (v : α) : List (String × α) → List (String × α)
  | [] => [(k, v)]
  | (k', v') :: r =>
    if k = k' then (k, v) :: r
    else if k < k' then (k, v) :: (k', v') :: r
    else (k', v') :: place k v r

theorem lookup_place_self (k : String) (v : α) (l : List (String × α)) :
    lookup k (place k v l) = some v := by
  induction l with
  | nil => simp [place, lookup]
  | cons e r ih => grind [place, lookup]

theorem lookup_place_of_ne {k k' : String} (h : k' ≠ k) (v : α) (l : List (String × α)) :
    lookup k' (place k v l) = lookup k' l := by
  induction l with
  | nil => simp [place, lookup, h]
  | cons e r ih => grind [place, lookup]

def get? (t : Table α) (k : String) : Option α := lookup k t.entries

/-- Puts `v` under `k`, in place of what was there. -/
def insert (t : Table α) (k : String) (v : α) : Table α := ⟨place k v t.entries⟩

def erase (t : Table α) (k : String) : Table α := ⟨t.entries.filter (·.1 ≠ k)⟩

def contains (t : Table α) (k : String) : Bool := (t.get? k).isSome

/-- Puts the entries of `u` into `t`. -/
def merge (t u : Table α) : Table α := u.entries.foldl (fun t (k, v) => t.insert k v) t

def isEmpty (t : Table α) : Bool := t.entries.isEmpty

@[simp] theorem get?_empty (k : String) : ({} : Table α).get? k = none := rfl

@[simp] theorem get?_insert_self (t : Table α) (k : String) (v : α) :
    (t.insert k v).get? k = some v := lookup_place_self k v t.entries

@[simp] theorem get?_insert_of_ne (t : Table α) {k k' : String} (h : k' ≠ k) (v : α) :
    (t.insert k v).get? k' = t.get? k' := lookup_place_of_ne h v t.entries

theorem get?_insert (t : Table α) (k k' : String) (v : α) :
    (t.insert k v).get? k' = if k' = k then some v else t.get? k' := by
  by_cases h : k' = k
  · subst h; simp
  · simp [h]

end Table

end PositionLog
