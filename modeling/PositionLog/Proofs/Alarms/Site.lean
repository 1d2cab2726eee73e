import PositionLog.Proofs.Alarms.Checkpointer
import PositionLog.Proofs.Checkpointer.Reports

/-!
# Nothing is passed over in silence

Checkpointers and writers are worked with in any order, by whoever has them, with clients of any
kind.  Every alarm is about one thing that went wrong, in order; and what goes wrong without an
alarm is answered to whoever asked for what was done.
-/

namespace PositionLog

/-- Checkpointers, and producers that none of them holds. -/
structure Site (F P C D : Type) where
  checkpointers : List (Checkpointer F P C D) := []
  producers : List P := []

/-- Where a producer is found. -/
inductive Place where
  | heldBy (checkpointer : Nat)
  | free (producer : Nat)

namespace Checkpointer

variable {F P C D : Type} [LogProducer P] [LogConsumer C]

/-- Ends a checkpointer that goes out of use.  It stops, and a producer that it was given after it
had stopped is dropped. -/
def retire : Act (Checkpointer F P C D) Unit := do
  stop
  let s ← get
  match s.write.producer with
  | none => pure ()
  | some producer => LogProducer.drop producer
  set (s.setProducer none)

def mishapsOfRetire (s : Checkpointer F P C D) (w : Shared) : List Mishap :=
  s.mishapsOfStop w ++ (stop s w).1.2.mishapsOfProducerDrop

theorem told_retire [LogProducer.Quiet P] [LogConsumer.Audited C] (s : Checkpointer F P C D)
    (w : Shared) : w.Told (retire s w).2 (s.mishapsOfRetire w) := by
  have hstopped := told_stop s w
  rcases hstop : stop s w with ⟨⟨⟨⟩, s₁⟩, w₁⟩
  rw [hstop] at hstopped
  rw [retire, Act.bind_of_eq hstop, Act.bind_of_eq (Act.get_apply s₁ w₁), mishapsOfRetire, hstop]
  refine hstopped.trans ?_
  dsimp only
  rw [mishapsOfProducerDrop]
  cases s₁.write.producer with
  | none => exact .refl w₁
  | some producer => exact LogProducer.told_drop producer w₁

end Checkpointer

namespace Site

variable {F P C D α : Type}

/-! ## Who does it -/

/-- A step of one of the checkpointers, if it is there. -/
def onCheckpointer (who : Nat) (x : Act (Checkpointer F P C D) α) :
    Act (Site F P C D) (Option α) :=
  Act.on checkpointers (fun checkpointers s => { s with checkpointers }) (x.member who)

/-- A step of a producer, if it is there. -/
def onProducer (x : Act P α) : Place → Act (Site F P C D) Unit
  | .heldBy who => do
    let _ ← onCheckpointer who (Checkpointer.onProducer x)
  | .free who => do
    let _ ← Act.on producers (fun producers s => { s with producers }) (x.member who)

/-- The ledger of a step of one of the checkpointers. -/
def checkpointerLedger (who : Nat) (l : Ledger (Checkpointer F P C D)) : Ledger (Site F P C D) :=
  fun s => l.member who s.checkpointers

/-- The ledger of a step of a producer. -/
def producerLedger (l : Ledger P) : Place → Ledger (Site F P C D)
  | .heldBy who => checkpointerLedger who fun k => l.onSome k.write.producer
  | .free who => fun s => l.member who s.producers

theorem checkpointerLedger_nil (who : Nat) :
    (checkpointerLedger who (fun _ _ => []) : Ledger (Site F P C D)) = fun _ _ => [] := by
  funext s
  rw [checkpointerLedger, Ledger.member_nil]

theorem producerLedger_nil (place : Place) :
    (producerLedger (fun _ _ => []) place : Ledger (Site F P C D)) = fun _ _ => [] := by
  cases place with
  | heldBy who =>
    rw [producerLedger, Ledger.onSome_nil]
    exact checkpointerLedger_nil who
  | free who =>
    funext s
    rw [producerLedger, Ledger.member_nil]

section Accounts

variable {R : Shared → Shared → List Incident → Prop} (hR : Shared.AddsUp R)

include hR

theorem accounts_onCheckpointer {x : Act (Checkpointer F P C D) α}
    {l : Ledger (Checkpointer F P C D)} (h : x.Accounts R l) (who : Nat) :
    (onCheckpointer who x).Accounts R (checkpointerLedger who l) :=
  (hR.member h who).on _ _

theorem accounts_onProducer {x : Act P α} {l : Ledger P} (h : x.Accounts R l) (place : Place) :
    (onProducer x place : Act (Site F P C D) Unit).Accounts R (producerLedger l place) := by
  cases place with
  | heldBy who => exact accounts_onCheckpointer hR ((hR.onSome h).on _ _) who
  | free who => exact fun s w => hR.member h who s.producers w

/-! Nothing is listed of a step of a client of which nothing is listed. -/

theorem mute_onProducer {x : Act P α} (h : x.Accounts R fun _ _ => []) (place : Place) :
    (onProducer x place : Act (Site F P C D) Unit).Accounts R fun _ _ => [] := by
  rw [← producerLedger_nil place]
  exact accounts_onProducer hR h place

theorem mute_onConsumer {x : Act C α} (h : x.Accounts R fun _ _ => []) (who : Nat) :
    (onCheckpointer who (Checkpointer.onConsumer x) : Act (Site F P C D) _).Accounts R
      fun _ _ => [] := by
  have honly := hR.onSome h
  rw [Ledger.onSome_nil] at honly
  rw [← checkpointerLedger_nil who]
  exact accounts_onCheckpointer hR (honly.on _ _) who

end Accounts

/-! ## What happens -/

/-- What happens.  Whoever has a client may use it in any way that gives no alarm by itself. -/
inductive Event (F P C D : Type) where
  | create (settings : Settings) (factory : F)
  | command (who : Nat) (c : Checkpointer.Command P C D)
  /-- A checkpointer is dropped. -/
  | retire (who : Nat)
  | addProducer (producer : P)
  | dropProducer (who : Nat)
  /-- A writer sends a record. -/
  | append (x : Writer) (key value : Bytes) (place : Place)
  /-- The consumer that a checkpointer holds is polled. -/
  | poll (timeout : Nat) (who : Nat)
  | useProducer (x : Act P Unit) (quiet : x.Quiet) (place : Place)
  | useConsumer (x : Act C Unit) (quiet : x.Quiet) (who : Nat)
  /-- Somebody reports on a record whose ticket was kept. -/
  | report (ticket : Nat) (r : Report)
  | elsewhere (x : StateM Shared Unit) (quiet : ∀ w, (x w).2.alarms = w.alarms)

variable [ClientFactory F P C] [LogProducer P] [LogConsumer C] [Deserializer D]

def Event.run : Event F P C D → Act (Site F P C D) Unit
  | create settings factory => do
    let k ← Checkpointer.create settings factory
    modify fun s => { s with checkpointers := s.checkpointers ++ [k] }
  | command who c => do
    let _ ← onCheckpointer who c.run
  | retire who => do
    let _ ← onCheckpointer who Checkpointer.retire
    modify fun s => { s with checkpointers := s.checkpointers.eraseIdx who }
  | addProducer producer => modify fun s => { s with producers := s.producers ++ [producer] }
  | dropProducer who => do
    onProducer (do LogProducer.drop (← get)) (.free who)
    modify fun s => { s with producers := s.producers.eraseIdx who }
  | append x key value place => onProducer (x.append key value : Request P Unit).run place
  | poll timeout who => do
    let poll : Request C (List Record) := LogConsumer.poll timeout
    let _ ← onCheckpointer who (Checkpointer.onConsumer poll.run)
  | useProducer x _ place => onProducer x place
  | useConsumer x _ who => do
    let _ ← onCheckpointer who (Checkpointer.onConsumer x)
  | report ticket r => Shared.deliver ticket r
  | elsewhere x _ => x

/-- All events, one after the other. -/
def runAll (es : List (Event F P C D)) : Act (Site F P C D) Unit := es.forM Event.run

/-! ## What goes wrong -/

variable [LogConsumer.Audited C] [Deserializer.Audited D]

/-- What is noted of an event. -/
def Event.incidents : Event F P C D → Ledger (Site F P C D)
  | command who c => checkpointerLedger who c.incidents
  | retire who => checkpointerLedger who fun k w => Incident.answered (.ok ()) (k.mishapsOfRetire w)
  | dropProducer who => producerLedger
    (fun producer _ => Incident.answered (.ok ()) (LogProducer.mishapsOfDrop producer)) (.free who)
  | append x key value place => producerLedger (x.incidents key value) place
  | poll timeout who => checkpointerLedger who fun k =>
    Ledger.onSome (LogConsumer.incidentsOfPoll timeout) k.read.consumer
  | report ticket r => fun _ w =>
    match w.pending[ticket]? with
    | none => []
    | some t => Incident.answered (.ok ()) (t.mishaps r)
  | create .. | addProducer _ | useProducer .. | useConsumer .. | elsewhere .. => fun _ _ => []

/-- All that goes wrong, in order. -/
def journal : List (Event F P C D) → Ledger (Site F P C D)
  | [], _, _ => []
  | e :: es, s, w => e.incidents s w ++ journal es (e.run s w).1.2 (e.run s w).2

/-- What is noted of each of several events adds up. -/
theorem accounts_runAll {R : Shared → Shared → List Incident → Prop} (hR : Shared.AddsUp R)
    {es : List (Event F P C D)} (h : ∀ e ∈ es, e.run.Accounts R e.incidents) :
    (runAll es).Accounts R (journal es) := by
  intro s w
  induction es generalizing s w with
  | nil => exact hR.refl w
  | cons e es ih =>
    obtain ⟨he, hes⟩ := List.forall_mem_cons.mp h
    exact hR.trans (he s w) (ih hes _ _)

variable [ClientFactory.Quiet F] [LogProducer.Quiet P]

theorem Event.explained (e : Event F P C D) : e.run.Explained e.incidents := by
  have hR := Shared.addsUp_explained
  cases e with
  | create settings factory => exact fun s w => .of_eq rfl
  | command who c => exact accounts_onCheckpointer hR c.explained who
  | retire who => exact accounts_onCheckpointer hR (fun k w => k.told_retire w (.ok ())) who
  | addProducer producer => exact fun s w => .of_eq rfl
  | dropProducer who =>
    have hdropped : (do LogProducer.drop (← get) : Act P Unit).Explained fun producer _ =>
        Incident.answered (.ok ()) (LogProducer.mishapsOfDrop producer) :=
      fun producer w => LogProducer.told_drop producer w (.ok ())
    exact accounts_onProducer hR hdropped (.free who)
  | append x key value place => exact accounts_onProducer hR (x.explained_append key value) place
  | poll timeout who =>
    exact accounts_onCheckpointer hR ((hR.onSome (LogConsumer.explained_poll timeout)).on _ _) who
  | useProducer x quiet place => exact mute_onProducer hR quiet.explained place
  | useConsumer x quiet who => exact mute_onConsumer hR quiet.explained who
  | report ticket r =>
    intro s w
    change w.Explained (Shared.deliver ticket r w).2 _
    rw [Shared.deliver_apply, incidents]
    dsimp only
    have hwithdrawn : w.Told (Shared.withdraw ticket w).2 [] := .of_eq rfl
    cases w.pending[ticket]? with
    | none => exact hwithdrawn (.ok ())
    | some t => exact hwithdrawn.trans (Shared.told_settle t r _) (.ok ())
  | elsewhere x quiet => exact fun s w => .of_eq (quiet w)

theorem explained_runAll (es : List (Event F P C D)) : (runAll es).Explained (journal es) :=
  accounts_runAll Shared.addsUp_explained fun e _ => e.explained

/-- Whatever happens, the alarms that are given are those about what goes wrong, one for each in
order, unless it is that a closed producer is to send, or that a consumer cannot subscribe or be
polled.  Whoever asked is answered with that instead.  If nothing goes wrong, no alarm is given. -/
theorem alarms_match_journal (es : List (Event F P C D)) (s : Site F P C D) (w : Shared) :
    let w' := (runAll es s w).2
    w'.alarms = w.alarms ++ ((journal es s w).map Incident.mishap).filterMap Mishap.alarm? ∧
    (∀ i ∈ journal es s w, i.mishap.alarm? = none → i.answer = .error (.broker i.mishap.cause)) ∧
    (journal es s w = [] → w'.alarms = w.alarms) := by
  intro w'
  obtain ⟨haccounted, hsettled⟩ := explained_runAll es s w
  refine ⟨haccounted, hsettled, fun hnone => ?_⟩
  rw [Shared.Accounted, hnone] at haccounted
  exact haccounted.trans (List.append_nil _)

/-- A factory that fails at first, and then makes clients that fail. -/
def unreliable : Scripted.Factory where
  party := 0
  producers := [.error (.kafka "p"), .ok ⟨[.keep, .refuse .closed], [some (.kafka "flush")]⟩]
  consumers := [.error (.kafka "c"), .ok ⟨[], [some .closed], [.fail (.kafka "poll")], []⟩]

def troubles : List (Event Scripted.Factory Scripted.Producer Scripted.Consumer Loader) :=
  [.create ⟨"t", 1, 1, .batch, {}, {}⟩ unreliable, .command 0 .init, .command 0 .init,
    .command 0 (.setAdapter ⟨none, some ⟨0, 0, none⟩⟩), .command 0 (.publish ⟨"s", 1⟩),
    .command 0 .restore, .report 0 (.error ⟨none, .kafka "lost"⟩),
    .command 0 (.publish ⟨"s", 2⟩), .command 0 .stop]

/-- Neither client can be created at first, and when the poll of a replay fails, so does leaving
the topic.  A record is reported lost in the end. -/
theorem alarms_match_journal_of_troubles :
    (runAll troubles {} {}).2.alarms =
        [.creationFailed .consumer (.kafka "c"), .creationFailed .producer (.kafka "p"),
          .unsubscribeSkipped "t", .deliveryFailed (.kafka "lost"),
          .closeFailed .producer (.kafka "flush")] ∧
      ⟨.poll (.kafka "poll"), .error (.broker (.kafka "poll"))⟩ ∈ journal troubles {} {} := by
  obtain ⟨halarms, hanswers, -⟩ := alarms_match_journal troubles {} {}
  have hmishaps : (journal troubles {} {}).map Incident.mishap =
      [.create .consumer (.kafka "c"), .create .producer (.kafka "p"), .poll (.kafka "poll"),
        .unsubscribe "t" .closed, .delivery (.kafka "lost"), .send "t" .closed,
        .close .producer (.kafka "flush")] := by
    decide +kernel
  constructor
  · rw [halarms, hmishaps]
    rfl
  · have hpoll : Mishap.poll (.kafka "poll") ∈ (journal troubles {} {}).map Incident.mishap := by
      simp [hmishaps]
    obtain ⟨⟨m, answer⟩, hi, hmishap⟩ := List.mem_map.mp hpoll
    obtain rfl : m = .poll (.kafka "poll") := hmishap
    obtain rfl : answer = .error (.broker (.kafka "poll")) := hanswers _ hi rfl
    exact hi

end Site

end PositionLog
