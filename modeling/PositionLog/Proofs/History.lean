import Mathlib.Data.List.DropRight

/-!
# What a history leaves

A history is a list of what happened, the latest last.  Some of it leaves something behind, and some
of it clears away what was left until then.
-/

namespace PositionLog.History

variable {α β : Type} (clears : α → Bool) (leaves : α → Option β)

/-- What was left since something was cleared away last. -/
def left (hist : List α) : List β := (hist.rtakeWhile fun x => !clears x).filterMap leaves

theorem filterMap_append_singleton (hist : List α) (x : α) :
    (hist ++ [x]).filterMap leaves = hist.filterMap leaves ++ (leaves x).toList :=
  List.filterMap_append

@[simp] theorem left_nil : left clears leaves [] = [] := rfl

/-- The latest happening clears away all that was left, or adds to it. -/
theorem left_append_singleton (hist : List α) (x : α) :
    left clears leaves (hist ++ [x]) =
      if clears x then [] else left clears leaves hist ++ (leaves x).toList := by
  rw [left, List.rtakeWhile_concat]
  cases clears x with
  | true => rfl
  | false =>
    rw [Bool.not_false, if_pos rfl, filterMap_append_singleton, if_neg Bool.false_ne_true]
    rfl

/-- What clears nothing away adds to what was left. -/
theorem left_append {xs : List α} (h : ∀ x ∈ xs, clears x = false) (hist : List α) :
    left clears leaves (hist ++ xs) = left clears leaves hist ++ xs.filterMap leaves := by
  induction xs using List.reverseRecOn with
  | nil => rw [List.append_nil, List.filterMap_nil, List.append_nil]
  | append_singleton xs x ih =>
    have hx := h x (List.mem_append_right xs (List.mem_singleton_self x))
    rw [← List.append_assoc, left_append_singleton, hx, if_neg Bool.false_ne_true,
      ih fun y hy => h y (List.mem_append_left [x] hy), List.append_assoc,
      filterMap_append_singleton]

end PositionLog.History
