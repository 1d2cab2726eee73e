import PositionLog.Act

/-!
# Steps one after the other

A step is carried out by what it comes to.  Most steps tell something, and nothing that is done
depends on it.
-/

namespace PositionLog

/-- A notice that asks for attention. -/
def Notice.isAlarm (n : Notice) : Bool := n.level = .warn || n.level = .error

section Steps

variable {ε ε' S α β : Type} {s s' : S} {w w' : Shared} {a : α}

theorem Act.bind_of_eq {x : Act S α} {f : α → Act S β} (h : x s w = ((a, s'), w')) :
    (x >>= f) s w = f a s' w' := by
  rw [Act.bind_apply, h]

theorem Act.on_of_eq {T : Type} {part : S → T} {put : T → S → S} {x : Act T α} {t : T}
    (h : x (part s) w = ((a, t), w')) : x.on part put s w = ((a, put t s), w') := by
  rw [Act.on_apply, h]

/-- A step for each of several, one after the other. -/
theorem Act.forM_cons_of_eq {β : Type} {f : β → Act S Unit} {b : β} (h : f b s w = (((), s'), w'))
    (bs : List β) : (b :: bs).forM f s w = bs.forM f s' w' :=
  Act.bind_of_eq h

theorem Act.lift_of_eq {x : StateM Shared α} (h : x w = (a, w')) :
    (liftM x : Act S α) s w = ((a, s), w') := by
  rw [Act.lift_apply, h]

theorem Try.bind_of_ok {x : Try ε S α} {f : α → Try ε S β} (h : x s w = ((.ok a, s'), w')) :
    (x >>= f) s w = f a s' w' := by
  rw [Try.bind_apply, h]

theorem Try.liftAct_of_eq {x : Act S α} (h : x s w = ((a, s'), w')) :
    (liftM x : Try ε S α) s w = ((.ok a, s'), w') := by
  rw [Try.liftAct_apply, h]

theorem Try.lift_of_eq {x : StateM Shared α} (h : x w = (a, w')) :
    (liftM x : Try ε S α) s w = ((.ok a, s), w') := by
  rw [Try.lift_apply, h]

theorem Try.outcome_of_eq {x : Try ε S α} {r : Except ε α} (h : x s w = ((r, s'), w')) :
    (x.outcome : Try ε' S (Except ε α)) s w = ((.ok r, s'), w') := by
  rw [Try.outcome_apply, h]

theorem set_eq_self_of_getElem? {as : List α} {i : Nat} (h : as[i]? = some a) :
    as.set i a = as := by
  obtain ⟨hlt, rfl⟩ := List.getElem?_eq_some_iff.mp h
  exact List.set_getElem_self hlt

/-- A step of one of several, if there is such a one. -/
def Act.member (who : Nat) (x : Act S α) : Act (List S) (Option α) := do
  match (← get)[who]? with
  | none => return none
  | some s =>
    let (a, s) ← (x s : StateM Shared _)
    modify (·.set who s)
    return some a

section Member

variable {who : Nat} {x : Act S α} {ss : List S}

theorem Act.member_of_none (h : ss[who]? = none) : x.member who ss w = ((none, ss), w) := by
  rw [Act.member, Act.bind_of_eq (Act.get_apply ss w), h]
  rfl

theorem Act.member_of_some (h : ss[who]? = some s) (hx : x s w = ((a, s'), w')) :
    x.member who ss w = ((some a, ss.set who s'), w') := by
  rw [Act.member, Act.bind_of_eq (Act.get_apply ss w), h]
  exact (Act.bind_of_eq (Act.lift_of_eq hx)).trans rfl

/-- If one of them stays as it was, so do all. -/
theorem Act.member_of_self (h : ss[who]? = some s) (hx : x s w = ((a, s), w')) :
    x.member who ss w = ((some a, ss), w') := by
  rw [Act.member_of_some h hx, set_eq_self_of_getElem? h]

/-- A step of one does not touch the others. -/
theorem Act.getElem?_member_of_ne {i : Nat} (h : i ≠ who) :
    (x.member who ss w).1.2[i]? = ss[i]? := by
  cases hs : ss[who]? with
  | none => rw [Act.member_of_none hs]
  | some s =>
    rw [Act.member_of_some hs rfl]
    exact List.getElem?_set_ne (Ne.symm h)

end Member

end Steps

namespace Shared

/-- What is shared, with other notices. -/
def withNotices (w : Shared) (n : Log Notice) : Shared := { w with notices := n }

section Fields

variable (w : Shared) (n m : Log Notice)

@[simp] theorem broker_withNotices : (w.withNotices n).broker = w.broker := rfl

@[simp] theorem caches_withNotices : (w.withNotices n).caches = w.caches := rfl

@[simp] theorem counters_withNotices : (w.withNotices n).counters = w.counters := rfl

@[simp] theorem losses_withNotices : (w.withNotices n).losses = w.losses := rfl

@[simp] theorem withNotices_withNotices :
    (w.withNotices n).withNotices m = w.withNotices m := rfl

@[simp] theorem withNotices_self : w.withNotices w.notices = w := rfl

end Fields

theorem tell_eq (n : Notice) (w : Shared) :
    tell n w = ((), w.withNotices (w.notices.push n)) := rfl

end Shared

/-- One of several logs gets longer. -/
theorem Pool.toList_get_modify_push {α : Type} (logs : Pool (Log α)) {i : Nat} (hi : i < logs.size)
    (a : α) (j : Nat) :
    ((logs.modify i (·.push a)).get j).toList =
      (logs.get j).toList ++ if i = j then [a] else [] := by
  by_cases hj : i = j
  · subst hj
    rw [if_pos rfl, get_modify_self logs hi, Log.toList_push]
  · rw [if_neg hj, get_modify_of_ne logs (Ne.symm hj), List.append_nil]

/-- One of several logs is emptied. -/
theorem Pool.toList_get_modify_empty {α : Type} (logs : Pool (Log α)) {i : Nat}
    (hi : i < logs.size) (j : Nat) :
    ((logs.modify i fun _ => {}).get j).toList = if i = j then [] else (logs.get j).toList := by
  by_cases hj : i = j
  · subst hj
    rw [if_pos rfl, get_modify_self logs hi, Log.toList_empty]
  · rw [if_neg hj, get_modify_of_ne logs (Ne.symm hj)]

end PositionLog
