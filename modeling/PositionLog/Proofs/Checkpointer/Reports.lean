import PositionLog.Proofs.Checkpointer.Lifecycle
import PositionLog.Proofs.Recovery.Basic
import PositionLog.Proofs.Writer

/-!
# Reports that come late

The records of a checkpointer are reported on in any order, some of them at once, others when its
producer is closed or the checkpointer is stopped, and some never.  Its losses are those that the
history of all this tells, each under the key of the very record that was lost.
-/

namespace PositionLog

/-- Takes back the ticket at a place among those that are kept for a later report. -/
def Shared.withdraw (i : Nat) : StateM Shared (Option Ticket) :=
  modifyGet fun w => (w.pending[i]?, { w with pending := w.pending.eraseIdx i })

/-- Reports on the record whose ticket is at a place. -/
def Shared.deliver (i : Nat) (report : Report) : StateM Shared Unit := do
  match ← withdraw i with
  | none => pure ()
  | some t => settle t report

theorem Shared.deliver_apply (i : Nat) (report : Report) (w : Shared) :
    deliver i report w =
      match w.pending[i]? with
      | none => ((), (withdraw i w).2)
      | some t => settle t report (withdraw i w).2 := by
  unfold deliver
  rw [bind_apply]
  change (match w.pending[i]? with | none => _ | some t => _ : StateM Shared Unit) _ = _
  cases w.pending[i]? <;> rfl

namespace Checkpointer

variable {F P C D : Type}

/-! ## What stopping reports -/

section Stop

/-- The consumer has nothing to report. -/
theorem closeConsumer_lost [LogConsumer C] [LogConsumer.Aloof C] (s : Checkpointer F P C D)
    (w : Shared) (i : Nat) :
    ∃ s' w', closeConsumer s w = (((), s'), w') ∧ s'.write = s.write ∧ Shared.Lost i [] w w' := by
  rw [closeConsumer, Act.bind_of_eq (Act.get_apply s w)]
  cases s.read.consumer with
  | none => exact ⟨s, w, rfl, rfl, .of_eq rfl rfl⟩
  | some consumer =>
    dsimp only
    rcases hclose : (LogConsumer.close : Request C Unit) consumer
      (w.withNotices (w.notices.push (.closing .consumer))) with ⟨⟨result, consumer'⟩, w₁⟩
    obtain ⟨hpending, hlosses⟩ := LogConsumer.Aloof.close consumer
      (w.withNotices (w.notices.push (.closing .consumer)))
    rw [hclose] at hpending hlosses
    have hclosed : Shared.Lost i [] w w₁ := .of_eq hpending hlosses
    rw [Act.bind_of_eq (Act.lift_of_eq (Shared.tell_eq _ w)),
      Act.bind_of_eq (Act.lift_of_eq hclose)]
    cases result with
    | ok _ => exact ⟨_, w₁, rfl, rfl, hclosed⟩
    | error cause => exact ⟨_, _, rfl, rfl, hclosed.trans (.of_eq rfl rfl)⟩

variable [LogProducer P]

/-- What is reported when the producer is closed and dropped. -/
def lastReports (s : Checkpointer F P C D) (w : Shared) : List Report :=
  match s.write.producer with
  | none => []
  | some producer =>
    let w₀ := w.withNotices (w.notices.push (.closing .producer))
    (LogProducer.abandoned ((LogProducer.close : Request P Unit) producer w₀).1.2).map Prod.snd

/-- The tickets that the producer keeps, if there is one, are those of records with these keys. -/
def Keeps (s : Checkpointer F P C D) (keys : List Bytes) : Prop :=
  ∀ producer, s.write.producer = some producer →
    LogProducer.tickets producer = keys.map (.writer s.write.writer.losses)

variable {s : Checkpointer F P C D} {keys : List Bytes}

/-- All that the producer keeps is reported on. -/
theorem closeProducer_lost [LogProducer.Custodian P] (h : s.Keeps keys) (w : Shared) :
    ∃ w', closeProducer s w = (((), s.setProducer none), w') ∧
      Shared.Lost s.write.writer.losses
        ((List.zipWith Occurrence.reported keys (s.lastReports w)).filterMap Occurrence.loss?)
        w w' := by
  rw [closeProducer, Act.bind_of_eq (Act.get_apply s w), lastReports]
  cases hproducer : s.write.producer with
  | none =>
    have hsame : s.setProducer none = s := by rw [setProducer, ← hproducer]
    rw [hsame, List.zipWith_nil_right]
    exact ⟨w, rfl, .of_eq rfl rfl⟩
  | some producer =>
    dsimp only
    rcases hclose : (LogProducer.close : Request P Unit) producer
      (w.withNotices (w.notices.push (.closing .producer))) with ⟨⟨result, producer'⟩, w₁⟩
    obtain ⟨htickets, hpending, hlosses⟩ := LogProducer.Custodian.close producer
      (w.withNotices (w.notices.push (.closing .producer)))
    rw [hclose] at htickets hpending hlosses
    have hkeys := htickets.trans (h producer hproducer)
    have hclosed : Shared.Lost s.write.writer.losses [] w w₁ := .of_eq hpending hlosses
    rw [Act.bind_of_eq (Act.lift_of_eq (Shared.tell_eq _ w)),
      Act.bind_of_eq (Act.lift_of_eq hclose)]
    cases result with
    | ok _ => exact ⟨_, rfl, hclosed.trans (Shared.lost_settle_forM hkeys w₁)⟩
    | error cause =>
      have htold : Shared.Lost s.write.writer.losses [] w₁
          (Shared.tell (.closeFailed .producer cause) w₁).2 := .of_eq rfl rfl
      exact ⟨_, rfl, (hclosed.trans htold).trans (Shared.lost_settle_forM hkeys _)⟩

variable [LogConsumer C]

theorem stop_lost [LogProducer.Custodian P] [LogConsumer.Aloof C] (hs : s.isStopped = false)
    (h : s.Keeps keys) (w : Shared) :
    ∃ s' w', stop s w = (((), s'), w') ∧ s'.write = (s.setProducer none).write ∧
      Shared.Lost s.write.writer.losses
        ((List.zipWith Occurrence.reported keys (s.lastReports w)).filterMap Occurrence.loss?)
        w w' := by
  have hkeeps : ({ s with phase := .stopped } : Checkpointer F P C D).Keeps keys := h
  obtain ⟨w₁, hproducer, hlost₁⟩ := closeProducer_lost hkeeps w
  obtain ⟨s₂, w₂, hconsumer, hwrite, hlost₂⟩ := closeConsumer_lost
    (({ s with phase := .stopped } : Checkpointer F P C D).setProducer none) w₁
    s.write.writer.losses
  rw [stop, Act.bind_of_eq (Act.get_apply s w), hs, if_neg Bool.false_ne_true]
  dsimp only
  rw [Act.bind_of_eq (Act.modify_apply _ s w), Act.bind_of_eq hproducer, Act.bind_of_eq hconsumer]
  refine ⟨_, w₂, rfl, hwrite, ?_⟩
  have hall := hlost₁.trans hlost₂
  rw [List.append_nil] at hall
  exact hall

end Stop

end Checkpointer

namespace Reports

open Checkpointer

/-! ## What can happen -/

/-- What can happen to a checkpointer and the records that its writer sends. -/
inductive Event where
  | append (key value : Bytes)
  | closeHeld
  | stop
  /-- There is a report on the record whose ticket is at a place. -/
  | deliver (i : Nat) (report : Report)
  /-- The ticket at a place is thrown away. -/
  | discard (i : Nat)
  | clearLosses
deriving DecidableEq, Repr

/-- The keys of the records on which nobody has reported so far, in the order in which their tickets
are kept, by whoever may report at any time and by the producer. -/
structure Awaited where
  pending : List Bytes := []
  held : List Bytes := []
deriving DecidableEq, Repr

variable {F P C D : Type} [LogProducer P]

namespace Event

def run [LogConsumer C] : Event → Act (Checkpointer F P C D) Unit
  | append key value => do
    let x := (← get).write.writer
    let _ ← onProducer (x.append key value : Request P Unit).run
  | closeHeld => Checkpointer.closeHeld
  | stop => Checkpointer.stop
  | deliver i report => Shared.deliver i report
  | discard i => do
    let _ ← Shared.withdraw i
  | clearLosses => do
    (← get).clearLosses

/-- What is noted, if these records are awaited. -/
def noted (s : Checkpointer F P C D) (w : Shared) (g : Awaited) : Event → List Occurrence
  | append key value =>
    match s.write.producer with
    | none => []
    | some producer =>
      let x := s.write.writer
      Occurrence.ofSend key
        ((LogProducer.send x.topic key value (.writer x.losses key) : Request P Receipt)
          producer w).1.1
        ((x.append key value : Request P Unit) producer w).1.1
  | stop => if s.isStopped then [] else List.zipWith .reported g.held (s.lastReports w)
  | deliver i report => g.pending[i]?.toList.map (.reported · report)
  | clearLosses => [.cleared]
  | closeHeld | discard _ => []

/-- What is awaited then.  The ticket of a record that was sent may be kept, but no ticket moves. -/
def awaited (s : Checkpointer F P C D) (w : Shared) (g : Awaited) : Event → Awaited
  | append key value =>
    match s.write.producer with
    | none => g
    | some producer =>
      let x := s.write.writer
      let sent := (LogProducer.send x.topic key value (.writer x.losses key) : Request P Receipt)
        producer w
      { pending := g.pending ++ (sent.2.pending.drop w.pending.length).map fun _ => key
        held := g.held ++ ((LogProducer.tickets sent.1.2).drop
          (LogProducer.tickets producer).length).map fun _ => key }
  | stop => if s.isStopped then g else { g with held := [] }
  | deliver i _ | discard i => { g with pending := g.pending.eraseIdx i }
  | closeHeld | clearLosses => g

end Event

/-- All that is noted, event after event. -/
def history [LogConsumer C] (s : Checkpointer F P C D) (w : Shared) (g : Awaited) :
    List Event → List Occurrence
  | [] => []
  | e :: es => e.noted s w g ++ history (e.run s w).1.2 (e.run s w).2 (e.awaited s w g) es

/-! ## What is kept true -/

/-- A writer returns an error only if the producer was closed. -/
def Honest : Occurrence → Prop
  | .sent _ answer returned => returned = Writer.returned answer
  | .reported .. | .cleared => True

theorem honest_ofSend (key : Bytes) (answer : Except BrokerError Receipt) :
    ∀ o ∈ Occurrence.ofSend key answer (Writer.returned answer), o.clears = false ∧ Honest o := by
  rintro o (_ | ⟨_, ho⟩)
  · exact ⟨rfl, rfl⟩
  · rcases answer with _ | _ | _
    · exact absurd ho List.not_mem_nil
    · rw [List.mem_singleton.mp ho]
      exact ⟨rfl, trivial⟩
    · exact absurd ho List.not_mem_nil

theorem honest_zipWith (keys : List Bytes) (reports : List Report) :
    ∀ o ∈ List.zipWith Occurrence.reported keys reports, o.clears = false ∧ Honest o := by
  intro o ho
  rw [← List.map_uncurry_zip_eq_zipWith] at ho
  obtain ⟨x, -, rfl⟩ := List.mem_map.mp ho
  exact ⟨rfl, trivial⟩

/-- The losses are those that the history tells, and the tickets are those of the records that are
awaited. -/
structure Reconciled (x : Writer) (hist : List Occurrence) (g : Awaited)
    (s : Checkpointer F P C D) (w : Shared) : Prop where
  writer : s.write.writer = x
  losses_lt : x.losses < w.losses.size
  losses : (w.losses.get x.losses).toList = Occurrence.lostSince hist
  pending : w.pending = g.pending.map (.writer x.losses)
  held : s.Keeps g.held
  honest : ∀ o ∈ hist, Honest o

namespace Reconciled

variable {x : Writer} {hist : List Occurrence} {g g' : Awaited} {s s' : Checkpointer F P C D}
  {w w₁ w' : Shared}

/-- What is noted tells what was lost meanwhile. -/
theorem noted (h : Reconciled x hist g s w) {os : List Occurrence}
    (hos : ∀ o ∈ os, o.clears = false ∧ Honest o) (hlosses : w₁.losses = w.losses)
    (hlost : Shared.Lost x.losses (os.filterMap Occurrence.loss?) w₁ w')
    (hwriter : s'.write.writer = x) (hpending : w₁.pending = g'.pending.map (.writer x.losses))
    (hheld : s'.Keeps g'.held) : Reconciled x (hist ++ os) g' s' w' where
  writer := hwriter
  losses_lt := by
    rw [hlost.size, hlosses]
    exact h.losses_lt
  losses := by
    rw [hlost.toList (hlosses ▸ h.losses_lt), hlosses, h.losses]
    exact (History.left_append _ _ (fun o ho => (hos o ho).1) hist).symm
  pending := hlost.pending.trans hpending
  held := hheld
  honest := List.forall_mem_append.mpr ⟨h.honest, fun o ho => (hos o ho).2⟩

/-- A record is sent. -/
theorem sent [LogProducer.Custodian P] (h : Reconciled x hist g s w) {producer producer' : P}
    (hproducer : s.write.producer = some producer) {key value : Bytes}
    {answer : Except BrokerError Receipt}
    (hsend : (LogProducer.send x.topic key value (.writer x.losses key) : Request P Receipt)
      producer w = ((answer, producer'), w₁))
    (hlost : Shared.Lost x.losses ((Occurrence.ofSend key answer
      (Writer.returned answer)).filterMap Occurrence.loss?) w₁ w') :
    Reconciled x (hist ++ Occurrence.ofSend key answer (Writer.returned answer))
      { pending := g.pending ++ (w₁.pending.drop w.pending.length).map fun _ => key
        held := g.held ++ ((LogProducer.tickets producer').drop
          (LogProducer.tickets producer).length).map fun _ => key }
      (s.setProducer (some producer')) w' := by
  obtain rfl := h.writer
  obtain ⟨c, htickets, hpending, hlosses⟩ :=
    LogProducer.Custodian.send s.write.writer.topic key value
      (.writer s.write.writer.losses key) producer w
  rw [hsend] at htickets hpending hlosses
  dsimp only at htickets hpending hlosses
  -- Wherever the ticket went, it is the last one there, and so is the key.
  refine h.noted (honest_ofSend key answer) hlosses hlost rfl ?_ ?_
  · rw [hpending, List.drop_left, List.map_append, ← h.pending]
    cases c <;> rfl
  · rintro _ ⟨⟩
    rw [htickets, List.drop_left, List.map_append, h.held producer hproducer]
    cases c <;> rfl

/-- All that the producer keeps is reported on, and it is given up. -/
theorem stopped [LogConsumer C] [LogProducer.Custodian P] [LogConsumer.Aloof C]
    (h : Reconciled x hist g s w) (hs : s.isStopped = false) :
    Reconciled x (hist ++ List.zipWith .reported g.held (s.lastReports w)) { g with held := [] }
      (stop s w).1.2 (stop s w).2 := by
  obtain rfl := h.writer
  obtain ⟨s', w', hstop, hwrite, hlost⟩ := stop_lost hs h.held w
  rw [hstop]
  refine h.noted (honest_zipWith g.held (s.lastReports w)) rfl hlost ?_ h.pending ?_
  · dsimp only
    rw [hwrite]
    rfl
  · intro producer hproducer
    dsimp only at hproducer
    rw [hwrite] at hproducer
    exact absurd hproducer nofun

/-- The tickets stay in line with the records when one is taken away. -/
theorem pending_eraseIdx (h : Reconciled x hist g s w) (i : Nat) :
    w.pending.eraseIdx i = (g.pending.eraseIdx i).map (.writer x.losses) := by
  rw [h.pending, List.eraseIdx_map]

theorem discarded (h : Reconciled x hist g s w) (i : Nat) :
    Reconciled x (hist ++ []) { g with pending := g.pending.eraseIdx i } s
      (Shared.withdraw i w).2 := by
  have hlosses : (Shared.withdraw i w).2.losses = w.losses := rfl
  exact h.noted (fun o ho => absurd ho List.not_mem_nil) hlosses (.of_eq rfl rfl) h.writer
    (h.pending_eraseIdx i) h.held

/-- A record is reported on, if its ticket is still there. -/
theorem delivered (h : Reconciled x hist g s w) (i : Nat) (report : Report) :
    Reconciled x (hist ++ g.pending[i]?.toList.map (.reported · report))
      { g with pending := g.pending.eraseIdx i } s (Shared.deliver i report w).2 := by
  -- The ticket names the key of the record itself, because tickets and records are in line.
  have hticket : w.pending[i]? = g.pending[i]?.map (.writer x.losses) := by
    rw [h.pending, List.getElem?_map]
  rw [Shared.deliver_apply, hticket]
  cases g.pending[i]? with
  | none => exact h.discarded i
  | some key =>
    have hlosses : (Shared.withdraw i w).2.losses = w.losses := rfl
    have hone : [Occurrence.reported key report].filterMap Occurrence.loss? =
        (Occurrence.reported key report).loss?.toList := by
      cases report <;> rfl
    have hlost := Shared.lost_settle x.losses key report (Shared.withdraw i w).2
    rw [← hone] at hlost
    exact h.noted (honest_zipWith [key] [report]) hlosses hlost h.writer (h.pending_eraseIdx i)
      h.held

/-- What was lost is forgotten. -/
theorem cleared (h : Reconciled x hist g s w) :
    Reconciled x (hist ++ [.cleared]) g s (s.clearLosses w).2 := by
  obtain rfl := h.writer
  refine ⟨rfl, ?_, ?_, h.pending, h.held, ?_⟩
  · exact h.losses_lt.trans_eq (Pool.size_modify w.losses _ _).symm
  · rw [Occurrence.lostSince, History.left_append_singleton]
    exact (Pool.toList_get_modify_empty w.losses h.losses_lt _).trans
      ((if_pos rfl).trans (if_pos rfl).symm)
  · exact List.forall_mem_append.mpr ⟨h.honest, List.forall_mem_singleton.mpr trivial⟩

/-- Closing the producer reports nothing. -/
theorem closed [LogProducer.Custodian P] (h : Reconciled x hist g s w) :
    Reconciled x (hist ++ []) g (closeHeld s w).1.2 (closeHeld s w).2 := by
  obtain rfl := h.writer
  rw [closeHeld]
  cases hproducer : s.write.producer with
  | none =>
    rw [Act.bind_of_eq (onProducer_of_none hproducer), List.append_nil]
    exact h
  | some producer =>
    rcases hclose : (LogProducer.close : Request P Unit) producer w with ⟨⟨result, producer'⟩, w₁⟩
    obtain ⟨htickets, hpending, hlosses⟩ := LogProducer.Custodian.close producer w
    rw [hclose] at htickets hpending hlosses
    have hheld : onProducer (LogProducer.close : Request P Unit).run s w = _ :=
      onProducer_of_some hproducer hclose
    rw [Act.bind_of_eq hheld]
    refine h.noted (fun o ho => absurd ho List.not_mem_nil) hlosses (.of_eq rfl rfl) rfl
      (hpending.trans h.pending) ?_
    rintro _ ⟨⟩
    exact htickets.trans (h.held producer hproducer)

end Reconciled

section Run

variable [LogConsumer C] [LogProducer.Custodian P] [LogConsumer.Aloof C] {x : Writer}
  {hist : List Occurrence} {g : Awaited} {s : Checkpointer F P C D} {w : Shared}

/-- One event. -/
theorem Event.run_reconciled (h : Reconciled x hist g s w) (e : Event) :
    Reconciled x (hist ++ e.noted s w g) (e.awaited s w g) (e.run s w).1.2 (e.run s w).2 := by
  cases e with
  | append key value =>
    obtain rfl := h.writer
    rw [noted, awaited, run, Act.bind_of_eq (Act.get_apply s w)]
    cases hproducer : s.write.producer with
    | none =>
      dsimp only
      rw [Act.bind_of_eq (onProducer_of_none hproducer), List.append_nil]
      exact h
    | some producer =>
      rcases hsend : (LogProducer.send s.write.writer.topic key value
        (.writer s.write.writer.losses key) : Request P Receipt) producer w with
          ⟨⟨answer, producer'⟩, w₁⟩
      obtain ⟨w', happend, hlost⟩ := Writer.append_of_send hsend
      have hheld : onProducer (s.write.writer.append key value : Request P Unit).run s w = _ :=
        onProducer_of_some hproducer happend
      dsimp only
      rw [Act.bind_of_eq hheld, happend, hsend]
      exact h.sent hproducer hsend hlost
  | closeHeld => exact h.closed
  | stop =>
    rw [noted, awaited, run]
    cases hs : s.isStopped with
    | true =>
      rw [stop_of_stopped hs, if_pos rfl, if_pos rfl, List.append_nil]
      exact h
    | false =>
      rw [if_neg Bool.false_ne_true, if_neg Bool.false_ne_true]
      exact h.stopped hs
  | deliver i report => exact h.delivered i report
  | discard i => exact h.discarded i
  | clearLosses => exact h.cleared

/-- All events, one after the other. -/
theorem forM_run_reconciled (h : Reconciled x hist g s w) (es : List Event) :
    ∃ g', Reconciled x (hist ++ history s w g es) g' (es.forM Event.run s w).1.2
      (es.forM Event.run s w).2 := by
  induction es generalizing hist g s w with
  | nil =>
    rw [history, List.append_nil]
    exact ⟨g, h⟩
  | cons e es ih =>
    rw [history, ← List.append_assoc]
    exact ih (e.run_reconciled h)

/-- A writer has sent nothing and lost nothing, and no ticket is kept. -/
structure Unsent (s : Checkpointer F P C D) (w : Shared) : Prop where
  losses_lt : s.write.writer.losses < w.losses.size
  lossless : (w.losses.get s.write.writer.losses).toList = []
  pending : w.pending = []
  held : s.Keeps []

omit [LogConsumer C] [LogProducer.Custodian P] [LogConsumer.Aloof C] in
theorem Unsent.reconciled (h : Unsent s w) : Reconciled s.write.writer [] {} s w where
  writer := rfl
  losses_lt := h.losses_lt
  losses := h.lossless
  pending := h.pending
  held := h.held
  honest _ ho := absurd ho List.not_mem_nil

/-- At any moment the losses are those of the records that were refused or reported as failed since
the losses were last forgotten, in this order and each under its own key.  A writer returns an error
exactly if the producer answers that it is closed, whatever is reported. -/
theorem losses_reconciled (h : Unsent s w) (es : List Event) :
    ∃ s' w', es.forM Event.run s w = (((), s'), w') ∧
      s'.losses w' = (Occurrence.lostSince (history s w {} es), w') ∧
      ∀ key answer returned, .sent key answer returned ∈ history s w {} es →
        answer = .error .closed ∧ returned = .error .closed ∨
          answer ≠ .error .closed ∧ returned = .ok () := by
  obtain ⟨g', hall⟩ := forM_run_reconciled h.reconciled es
  refine ⟨_, _, rfl, ?_, fun key answer returned hmem => ?_⟩
  · have hlosses := hall.losses
    rw [← hall.writer] at hlosses
    exact Prod.ext hlosses rfl
  · have hreturned : returned = Writer.returned answer := hall.honest _ hmem
    rw [hreturned]
    rcases answer with cause | receipt
    · cases cause with
      | closed => exact .inl ⟨rfl, rfl⟩
      | unavailable text => exact .inr ⟨nofun, rfl⟩
      | invalidState text => exact .inr ⟨nofun, rfl⟩
      | kafka text => exact .inr ⟨nofun, rfl⟩
    · exact .inr ⟨nofun, rfl⟩

end Run

/-- A checkpointer whose producer answers as it is told. -/
def scripted (sends : List Scripted.SendAnswer) :
    Checkpointer Broker.Factory Scripted.Producer Broker.Consumer Loader where
  settings := .simple "t"
  factory := {}
  phase := .running
  write := { writer := ⟨"t", 0⟩, producer := some { party := 0, sends } }

/-- The first two records are reported on last, one of them when the checkpointer was stopped. -/
theorem losses_reconciled_of_late_reports :
    ∃ s' w',
      [.append [1] [], .append [2] [], .append [3] [], .clearLosses, .append [4] [],
        .deliver 1 (.error ⟨some { topic := "t" }, .closed⟩), .append [5] [], .append [6] [],
        .closeHeld, .stop, .deliver 0 (.error ⟨none, .kafka "late"⟩), .append [7] []].forM Event.run
          (scripted [.keep, .keep, .refuse (.kafka "full"), .refuse (.kafka "full"),
            .report (.error ⟨none, .closed⟩), .refuse .closed])
          { Shared.start {} 0 0 with losses := ⟨[{}]⟩ } = (((), s'), w') ∧
      s'.losses w' = ([⟨[4], none, .kafka "full"⟩, ⟨[2], some { topic := "t" }, .closed⟩,
        ⟨[5], none, .closed⟩, ⟨[1], none, .kafka "late"⟩], w') := by
  have hunsent : Unsent (scripted [.keep, .keep, .refuse (.kafka "full"), .refuse (.kafka "full"),
      .report (.error ⟨none, .closed⟩), .refuse .closed])
        { Shared.start {} 0 0 with losses := ⟨[{}]⟩ } :=
    ⟨Nat.one_pos, rfl, rfl, fun _ _ => rfl⟩
  obtain ⟨s', w', hrun, hlosses, -⟩ := losses_reconciled hunsent
    [.append [1] [], .append [2] [], .append [3] [], .clearLosses, .append [4] [],
      .deliver 1 (.error ⟨some { topic := "t" }, .closed⟩), .append [5] [], .append [6] [],
      .closeHeld, .stop, .deliver 0 (.error ⟨none, .kafka "late"⟩), .append [7] []]
  exact ⟨s', w', hrun, hlosses⟩

end Reports

end PositionLog
