/-! # Pools

Values that are shared under a number. Numbers are given out in order and never taken back.
-/

namespace PositionLog

structure Pool (α : Type) where
  items : List α := []
deriving Repr, Inhabited

namespace Pool

variable {α : Type}

/-- The value under a number, or the default value under a number not given out yet. -/
def get [Inhabited α] (p : Pool α) (i : Nat) : α := p.items.getD i default

def size (p : Pool α) : Nat := p.items.length

/-- Adds a value, under the next number. -/
def add (p : Pool α) (a : α) : Nat × Pool α := (p.size, ⟨p.items ++ [a]⟩)

def modify (p : Pool α) (i : Nat) (f : α → α) : Pool α := ⟨p.items.modify i f⟩

@[simp] theorem size_modify (p : Pool α) (i : Nat) (f : α → α) : (p.modify i f).size = p.size := by
  simp [size, modify]

theorem get_modify_self [Inhabited α] (p : Pool α) {i : Nat} (h : i < p.size) (f : α → α) :
    (p.modify i f).get i = f (p.get i) := by
  simp [get, modify, size] at h ⊢
  simp [h]

theorem get_modify_of_ne [Inhabited α] (p : Pool α) {i j : Nat} (h : j ≠ i) (f : α → α) :
    (p.modify i f).get j = p.get j := by
  simp [get, modify, Ne.symm h]

@[simp] theorem get_add_self [Inhabited α] (p : Pool α) (a : α) :
    (p.add a).2.get (p.add a).1 = a := by
  simp [get, add, size]

theorem get_add_of_lt [Inhabited α] (p : Pool α) (a : α) {i : Nat} (h : i < p.size) :
    (p.add a).2.get i = p.get i := by
  simp only [size] at h
  simp [get, add, List.getElem?_append_left h]

end Pool

end PositionLog
