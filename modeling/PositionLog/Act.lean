import PositionLog.Shared

/-! # Steps

A step of something works on a state of its own and on what it shares with others. What a step does
is said by applying it to both, and there is one equation for each way to build steps.
-/

namespace PositionLog

/-- A step of something with states `S`. -/
abbrev Act (S : Type) := StateT S (StateM Shared)

/-- A step that can fail, and may have changed both even then. -/
abbrev Try (ε S : Type) := ExceptT ε (Act S)

/-- A step of a client. -/
abbrev Request (C : Type) := Try BrokerError C

/-- A step of a checkpointer, or of one of its halves. -/
abbrev Operation (S : Type) := Try Error S

variable {S T α β ε ε' : Type}

namespace Act

/-- A step on a part of the state. -/
def on (part : S → T) (put : T → S → S) (x : Act T α) : Act S α := fun s => do
  let (a, t) ← x (part s)
  return (a, put t s)

/-- A step on something that may be missing. -/
def onSome (x : Act T α) : Act (Option T) (Option α)
  | none => return (none, none)
  | some t => do
    let (a, t) ← x t
    return (some a, some t)

@[simp] theorem pure_apply (a : α) (s : S) (w : Shared) :
    (pure a : Act S α) s w = ((a, s), w) := rfl

@[simp] theorem bind_apply (x : Act S α) (f : α → Act S β) (s : S) (w : Shared) :
    (x >>= f) s w = f (x s w).1.1 (x s w).1.2 (x s w).2 := rfl

@[simp] theorem map_apply (f : α → β) (x : Act S α) (s : S) (w : Shared) :
    (f <$> x) s w = ((f (x s w).1.1, (x s w).1.2), (x s w).2) := rfl

@[simp] theorem get_apply (s : S) (w : Shared) : (get : Act S S) s w = ((s, s), w) := rfl

@[simp] theorem set_apply (s t : S) (w : Shared) : (set t : Act S Unit) s w = (((), t), w) := rfl

@[simp] theorem modify_apply (f : S → S) (s : S) (w : Shared) :
    (modify f : Act S Unit) s w = (((), f s), w) := rfl

@[simp] theorem getThe_apply (s : S) (w : Shared) :
    (getThe Shared : Act S Shared) s w = ((w, s), w) := rfl

@[simp] theorem lift_apply (x : StateM Shared α) (s : S) (w : Shared) :
    (liftM x : Act S α) s w = (((x w).1, s), (x w).2) := rfl

@[simp] theorem ite_apply (c : Prop) [Decidable c] (x y : Act S α) (s : S) (w : Shared) :
    (if c then x else y) s w = if c then x s w else y s w := by
  split <;> rfl

@[simp] theorem on_apply (part : S → T) (put : T → S → S) (x : Act T α) (s : S) (w : Shared) :
    x.on part put s w = (((x (part s) w).1.1, put (x (part s) w).1.2 s), (x (part s) w).2) := rfl

@[simp] theorem onSome_none (x : Act T α) (w : Shared) : x.onSome none w = ((none, none), w) := rfl

@[simp] theorem onSome_some (x : Act T α) (t : T) (w : Shared) :
    x.onSome (some t) w = ((some (x t w).1.1, some (x t w).1.2), (x t w).2) := rfl

end Act

namespace Try

/-- A step on a part of the state. -/
def on (part : S → T) (put : T → S → S) (x : Try ε T α) : Try ε S α := Act.on part put x.run

/-- How a step ends. This itself never fails. -/
def outcome (x : Try ε S α) : Try ε' S (Except ε α) := liftM (m := Act S) x.run

@[simp] theorem pure_apply (a : α) (s : S) (w : Shared) :
    (pure a : Try ε S α) s w = ((.ok a, s), w) := rfl

@[simp] theorem throw_apply (e : ε) (s : S) (w : Shared) :
    (throw e : Try ε S α) s w = ((.error e, s), w) := rfl

@[simp] theorem bind_apply (x : Try ε S α) (f : α → Try ε S β) (s : S) (w : Shared) :
    (x >>= f) s w = match (x s w).1.1 with
      | .ok a => f a (x s w).1.2 (x s w).2
      | .error e => ((.error e, (x s w).1.2), (x s w).2) := by
  show (match x s w with | ((a, s), w) => (ExceptT.bindCont f a) s w : Id _) = _
  rcases x s w with ⟨⟨_ | _, _⟩, _⟩ <;> rfl

@[simp] theorem map_apply (f : α → β) (x : Try ε S α) (s : S) (w : Shared) :
    (f <$> x) s w = match (x s w).1.1 with
      | .ok a => ((.ok (f a), (x s w).1.2), (x s w).2)
      | .error e => ((.error e, (x s w).1.2), (x s w).2) := by
  rw [← bind_pure_comp, bind_apply]
  rfl

@[simp] theorem run_apply (x : Try ε S α) (s : S) (w : Shared) : x.run s w = x s w := rfl

@[simp] theorem get_apply (s : S) (w : Shared) : (get : Try ε S S) s w = ((.ok s, s), w) := rfl

@[simp] theorem set_apply (s t : S) (w : Shared) :
    (set t : Try ε S Unit) s w = ((.ok (), t), w) := rfl

@[simp] theorem modify_apply (f : S → S) (s : S) (w : Shared) :
    (modify f : Try ε S Unit) s w = ((.ok (), f s), w) := rfl

@[simp] theorem getThe_apply (s : S) (w : Shared) :
    (getThe Shared : Try ε S Shared) s w = ((.ok w, s), w) := rfl

@[simp] theorem liftAct_apply (x : Act S α) (s : S) (w : Shared) :
    (liftM x : Try ε S α) s w = ((.ok (x s w).1.1, (x s w).1.2), (x s w).2) := rfl

@[simp] theorem lift_apply (x : StateM Shared α) (s : S) (w : Shared) :
    (liftM x : Try ε S α) s w = ((.ok (x w).1, s), (x w).2) := rfl

@[simp] theorem on_apply (part : S → T) (put : T → S → S) (x : Try ε T α) (s : S) (w : Shared) :
    x.on part put s w = (((x (part s) w).1.1, put (x (part s) w).1.2 s), (x (part s) w).2) := rfl

@[simp] theorem outcome_apply (x : Try ε S α) (s : S) (w : Shared) :
    (x.outcome : Try ε' S (Except ε α)) s w = ((.ok (x s w).1.1, (x s w).1.2), (x s w).2) := rfl

@[simp] theorem ite_apply (c : Prop) [Decidable c] (x y : Try ε S α) (s : S) (w : Shared) :
    (if c then x else y) s w = if c then x s w else y s w := by
  split <;> rfl

end Try

end PositionLog
