import PositionLog.Proofs.Checkpointer.Command
import PositionLog.Proofs.Checkpointer.Reports

/-!
# After a checkpointer has stopped

A checkpointer that has stopped holds no clients and gets none by itself.  It refuses what it would
need them for, and does nothing else that it is told, except to use another adapter and to forget
its losses.  The records that it sent before can still be reported on.
-/

namespace PositionLog.Checkpointer

variable {F P C D : Type}

/-! ## What can still happen -/

/-- What can happen to a checkpointer that has stopped. -/
inductive Later (P C D : Type) where
  | command (c : Command P C D)
  /-- There is a report on the record whose ticket is at a place. -/
  | report (i : Nat) (r : Report)

namespace Later

def run [ClientFactory F P C] [LogProducer P] [LogConsumer C] [Deserializer D] :
    Later P C D → Act (Checkpointer F P C D) Unit
  | command c => do
    let _ ← c.run
  | report i r => Shared.deliver i r

/-- Whether the owner hands over a client or a setting. -/
def handsOver : Later P C D → Bool
  | command (.useProducer _) | command (.useConsumer _) | command (.setPollTimeout _) => true
  | _ => false

/-- The adapter that is used afterwards. -/
def adapter (a : Adapter D) : Later P C D → Adapter D
  | command (.setAdapter b) => b
  | _ => a

/-- What is done to all that is shared, if these losses are meant.  A command does nothing to it,
unless it is to forget them. -/
def left (x : Writer) : Later P C D → StateM Shared Unit
  | command .clearLosses => x.forget
  | report i r => Shared.deliver i r
  | command _ => pure ()

/-- Neither reports nor what is forgotten concern the broker, the caches or those who count. -/
theorem left_frame (x : Writer) (e : Later P C D) (w : Shared) :
    (e.left x w).2.broker = w.broker ∧ (e.left x w).2.caches = w.caches ∧
      (e.left x w).2.counters = w.counters := by
  cases e with
  | command c => cases c <;> exact ⟨rfl, rfl, rfl⟩
  | report i r =>
    rw [left, Shared.deliver_apply]
    rcases w.pending[i]? with _ | ⟨losses, key⟩ | _
    · exact ⟨rfl, rfl, rfl⟩
    · cases r <;> exact ⟨rfl, rfl, rfl⟩
    · exact ⟨rfl, rfl, rfl⟩

theorem forM_left_frame (x : Writer) (es : List (Later P C D)) (w : Shared) :
    (es.forM (left x) w).2.broker = w.broker ∧ (es.forM (left x) w).2.caches = w.caches ∧
      (es.forM (left x) w).2.counters = w.counters := by
  induction es generalizing w with
  | nil => exact ⟨rfl, rfl, rfl⟩
  | cons e es ih =>
    obtain ⟨hbroker, hcaches, hcounters⟩ := e.left_frame x w
    obtain ⟨hbroker', hcaches', hcounters'⟩ := ih (e.left x w).2
    exact ⟨hbroker'.trans hbroker, hcaches'.trans hcaches, hcounters'.trans hcounters⟩

end Later

/-! ## How it answers -/

section Ended

variable (s : Checkpointer F P C D) (w : Shared)

theorem isStopped_ended : s.ended.isStopped = true := rfl

theorem publish_ended [LogProducer P] (p : Position) :
    publish p s.ended w = ((.error .stopped, s.ended), w) := rfl

theorem unsubscribe_ended [LogConsumer C] : unsubscribe s.ended w = (((), s.ended), w) := rfl

theorem subscribe_ended [LogConsumer C] :
    subscribe s.ended w = ((.error .stopped, s.ended), w) := rfl

variable [LogProducer P] [LogConsumer C] [Deserializer D]

/-- That there is no deserializer is noticed first. -/
theorem restore_ended :
    restore s.ended w =
      ((.error (if s.read.deserializer.isNone then .notDeserializable else .stopped), s.ended),
        w) := by
  have hread : s.ended.read.deserializer = s.read.deserializer := rfl
  rw [restore, Try.bind_of_ok (Try.get_apply s.ended w), hread]
  cases s.read.deserializer <;> rfl

variable [ClientFactory F P C]

/-- Whatever may still happen, the checkpointer stays as it is but for its adapter, and what is
shared stays as it is but for what was lost. -/
theorem Later.run_ended {e : Later P C D} (he : e.handsOver = false) :
    e.run s.ended w =
      (((), (s.withAdapter (e.adapter s.adapter)).ended), (e.left s.write.writer w).2) := by
  cases e with
  | report i r => rfl
  | command c =>
    cases c with
    | useProducer producer => exact absurd he.symm Bool.false_ne_true
    | useConsumer consumer => exact absurd he.symm Bool.false_ne_true
    | setPollTimeout timeout => exact absurd he.symm Bool.false_ne_true
    | init => exact Act.bind_of_eq (init_of_stopped s.isStopped_ended w)
    | restore => exact Act.bind_of_eq (Act.bind_of_eq (s.restore_ended w))
    | stop => exact Act.bind_of_eq (Act.bind_of_eq (stop_of_stopped s.isStopped_ended w))
    | _ => rfl

/-- So it is after all of this. -/
theorem forM_run_ended {es : List (Later P C D)} (hes : ∀ e ∈ es, e.handsOver = false) :
    es.forM Later.run s.ended w =
      (((), (s.withAdapter (es.foldl Later.adapter s.adapter)).ended),
        (es.forM (Later.left s.write.writer) w).2) := by
  induction es generalizing s w with
  | nil => rfl
  | cons e es ih =>
    obtain ⟨he, hes⟩ := List.forall_mem_cons.mp hes
    rw [Act.forM_cons_of_eq (Later.run_ended s w he), ih _ _ hes]
    rfl

variable {s}

/-- A checkpointer that has stopped is without clients from then on, and stays as it is but for the
adapter.  Whatever it is told, the log, the caches, the clients' counts and all else that is shared
stay as they are, except that losses are added by reports and forgotten when it is told to; and they
can still be read.  It refuses all that needs a client, and to stop it again or to drop it is to do
nothing. -/
theorem stopped_inert (h : s.isStopped = false) {es : List (Later P C D)}
    (hes : ∀ e ∈ es, e.handsOver = false) :
    let x := stop s w
    let y := es.forM Later.run x.1.2 x.2
    let s' := y.1.2
    let a := es.foldl Later.adapter s.adapter
    x.1.2 = s.ended ∧ s' = (s.withAdapter a).ended ∧
    y.2 = (es.forM (Later.left s.write.writer) x.2).2 ∧
    y.2.broker = x.2.broker ∧ y.2.caches = x.2.caches ∧ y.2.counters = x.2.counters ∧
    (∀ w, s'.losses w = s.losses w) ∧
    ∀ w,
      init s' w = ((.error .stopped, s'), w) ∧
      start s' w = ((.error .stopped, s'), w) ∧
      (∀ p, publish p s' w = ((.error .stopped, s'), w)) ∧
      subscribe s' w = ((.error .stopped, s'), w) ∧
      restore s' w =
        ((.error (if a.deserializer.isNone then .notDeserializable else .stopped), s'), w) ∧
      unsubscribe s' w = (((), s'), w) ∧
      stop s' w = (((), s'), w) ∧
      drop s' w = ((), w) := by
  obtain ⟨w₁, hstop⟩ := stop_of_not_stopped h w
  intro x y s' a
  have hx : x = (((), s.ended), w₁) := hstop
  have hy : y = (((), (s.withAdapter a).ended), (es.forM (Later.left s.write.writer) w₁).2) := by
    rw [← forM_run_ended s w₁ hes]
    exact congrArg (fun x => es.forM Later.run x.1.2 x.2) hx
  have hs' : s' = (s.withAdapter a).ended := congrArg (fun y => y.1.2) hy
  obtain ⟨hbroker, hcaches, hcounters⟩ := Later.forM_left_frame s.write.writer es w₁
  rw [hs', hx, hy]
  refine ⟨rfl, rfl, rfl, hbroker, hcaches, hcounters, fun w => rfl, fun w => ?_⟩
  have hstopped := isStopped_ended (s.withAdapter a)
  refine ⟨init_of_stopped hstopped w, rfl, publish_ended _ w, subscribe_ended _ w,
    restore_ended _ w, unsubscribe_ended _ w, stop_of_stopped hstopped w, ?_⟩
  rw [drop, Shared.bind_apply, stop_of_stopped hstopped w]
  rfl

end Ended

/-- A checkpointer whose producer keeps the ticket of the first position published. -/
def outstanding :
    Checkpointer Scripted.Factory Scripted.Producer Scripted.Consumer Loader × Shared :=
  let created := create (.simple "t") ⟨0, [.ok { sends := [.keep] }], []⟩ default
  let early : List (Later Scripted.Producer Scripted.Consumer Loader) :=
    [.command .init, .command .start, .command (.publish ⟨"a", 1⟩), .command .subscribe]
  let x := early.forM Later.run created.1 created.2
  (x.1.2, x.2)

/-- What happens when it has stopped: the first position turns out to be lost, and no other one is
taken. -/
def afterwards : List (Later Scripted.Producer Scripted.Consumer Loader) :=
  [.command (.publish ⟨"b", 2⟩), .command .init, .report 0 (.error ⟨none, .closed⟩),
    .command (.setAdapter ⟨some 0, some ⟨0, 0, none⟩⟩), .command .restore]

theorem stopped_inert_of_outstanding :
    let x := stop outstanding.1 outstanding.2
    let y := afterwards.forM Later.run x.1.2 x.2
    y.2.broker = x.2.broker ∧ y.2.caches = x.2.caches ∧
      (y.1.2.losses y.2).1 = [⟨Position.key ⟨"a", 1⟩, none, .closed⟩] ∧
      (restore y.1.2 y.2).1.1 = .error .stopped := by
  intro x y
  have hes : ∀ e ∈ afterwards, e.handsOver = false := by decide
  obtain ⟨-, -, hleft, hbroker, hcaches, -, hlosses, hanswers⟩ :=
    stopped_inert outstanding.2 (s := outstanding.1) rfl hes
  obtain ⟨-, -, -, -, hrestore, -⟩ := hanswers y.2
  refine ⟨hbroker, hcaches, ?_, congrArg (fun r => r.1.1) hrestore⟩
  rw [hlosses, hleft]
  rfl

end PositionLog.Checkpointer
