import PositionLog.Proofs.Broker.Partitions
import PositionLog.Proofs.Broker.Seeking
import PositionLog.Proofs.Checkpointer.Reception
import Mathlib.Data.Finset.Card

/-!
# What clients promise

Producers and consumers of one broker are created and asked for anything, in any order, while the
broker is given commands.  A producer reports once on a record that it takes, before it answers, and
never on another.  A client that was asked to close refuses all that it is asked for later, and the
broker counts it once, however often it is asked and whatever it answers.
-/

namespace PositionLog.Broker

/-- What a producer can be asked to do. -/
inductive Producer.Ask where
  | send (topic : String) (e : Entry) (t : Ticket)
  | close
deriving DecidableEq, Repr

/-- A producer does what it is asked to.  As with consumers, only polls are answered by records. -/
def Producer.Ask.run : Producer.Ask → Act Producer (Except BrokerError (List Record))
  | send topic e t => do
    return (← (LogProducer.transmit topic e.key e.value t : Request Producer Unit).run).map
      fun _ => []
  | close => do return (← Producer.close.run).map fun _ => []

/-- The clients of a broker. -/
structure Clients where
  producers : List Producer := []
  consumers : List Consumer := []
deriving DecidableEq, Repr

/-- What can happen to a broker and its clients. -/
inductive Event where
  | broker (c : Command)
  | newProducer (failsToClose : Bool)
  | newConsumer (maxPollRecords : Nat) (failsToClose : Bool)
  | producer (who : Nat) (a : Producer.Ask)
  | consumer (who : Nat) (a : Ask)
deriving DecidableEq, Repr

namespace Event

/-- A client answers if there is such a one. -/
def run : Event → Act Clients (Option (Except BrokerError (List Record)))
  | broker c => do
    let _ ← Shared.command c
    return none
  | newProducer failsToClose => do
    let p ← Producer.create failsToClose
    modify fun s => { s with producers := s.producers ++ [p] }
    return none
  | newConsumer maxPollRecords failsToClose => do
    let c ← Consumer.create maxPollRecords failsToClose
    modify fun s => { s with consumers := s.consumers ++ [c] }
    return none
  | producer who a => (a.run.member who).on Clients.producers fun ps s => { s with producers := ps }
  | consumer who a => (a.run.member who).on Clients.consumers fun cs s => { s with consumers := cs }

/-- The producer that is asked to close. -/
def closedProducer? : Event → Option Nat
  | producer who .close => some who
  | _ => none

/-- The consumer that is asked to close. -/
def closedConsumer? : Event → Option Nat
  | consumer who .close => some who
  | _ => none

end Event

/-- All that happens, with what is answered. -/
def history : List Event → Act Clients (List (Event × Option (Except BrokerError (List Record))))
  | [] => return []
  | e :: es => do
    let answer ← e.run
    return (e, answer) :: (← history es)

/-- The clients that were asked to close, of those that there were. -/
def closings (closed? : Event → Option Nat)
    (h : List (Event × Option (Except BrokerError (List Record)))) : Finset Nat :=
  (h.filterMap fun x => x.2.bind fun _ => closed? x.1).toFinset

/-- What became of a record that was sent: it was added where the report says, or it was not. -/
inductive Reported (w : Shared) (topic : String) (e : Entry) : Report → Shared → Prop
  | appended {p offset : Nat}
    (h : Appended w.broker topic e p offset (w.broker.push topic e)) :
    Reported w topic e (.ok ⟨topic, some p, some offset⟩)
      { w with broker := w.broker.push topic e }
  | refused (failure : DeliveryFailure) : Reported w topic e (.error failure) w

/-- The report that is seen, if it is one. -/
def report? : Observation → Option Report
  | .reported report => some report
  | _ => none

/-- All reports that were seen. -/
def reports (w : Shared) : List Report := w.observations.toList.filterMap report?

/-- Whether a record was taken by a producer, and the report on it is seen. -/
def watched : Event × Option (Except BrokerError (List Record)) → Bool
  | (.producer _ (.send _ _ .watcher), some (.ok _)) => true
  | _ => false

/-! ## How clients are counted -/

/-- Clients of one kind, of which it is known whether they are closed, and what the broker counts of
them.  Those are closed that were asked to close. -/
structure Counted (flags : List Bool) (created closed : Nat) (asked : Finset Nat) : Prop where
  created : created = flags.length
  closed : closed = asked.card
  mem_asked : ∀ who, who ∈ asked ↔ flags[who]? = some true

namespace Counted

variable {flags : List Bool} {created closed : Nat} {asked : Finset Nat}

theorem closed_le (h : Counted flags created closed asked) : closed ≤ created := by
  have hsub : asked ⊆ Finset.range flags.length := by
    intro who hwho
    have hflag := (h.mem_asked who).mp hwho
    exact Finset.mem_range.mpr (List.getElem?_eq_some_iff.mp hflag).1
  calc closed = asked.card := h.closed
    _ ≤ (Finset.range flags.length).card := Finset.card_le_card hsub
    _ = created := by rw [Finset.card_range, h.created]

/-- A new client is open. -/
theorem add (h : Counted flags created closed asked) :
    Counted (flags ++ [false]) (created + 1) closed asked where
  created := by rw [List.length_append, ← h.created, List.length_singleton]
  closed := h.closed
  mem_asked who := by
    rw [h.mem_asked, List.getElem?_append]
    split
    · rfl
    · rename_i hlen
      rw [List.getElem?_eq_none (Nat.not_lt.mp hlen)]
      cases who - flags.length <;> exact iff_of_false nofun nofun

/-- A client that is asked to close is counted, if it was open. -/
theorem answer (h : Counted flags created closed asked) {who : Nat} {flag : Bool}
    (hflag : flags[who]? = some flag) (closes : Bool) :
    Counted (flags.set who (flag || closes)) created
      (if closes ∧ flag = false then closed + 1 else closed)
      (asked ∪ if closes then {who} else ∅) := by
  have hlt := (List.getElem?_eq_some_iff.mp hflag).1
  have hself : flags.set who flag = flags := set_eq_self_of_getElem? hflag
  cases closes with
  | false =>
    rw [Bool.or_false, hself, if_neg nofun, if_neg nofun, Finset.union_empty]
    exact h
  | true =>
    rw [Bool.or_true, if_pos rfl]
    cases flag with
    | true =>
      have hmem : {who} ⊆ asked := Finset.singleton_subset_iff.mpr ((h.mem_asked who).mpr hflag)
      rw [if_neg nofun, hself, Finset.union_eq_left.mpr hmem]
      exact h
    | false =>
      have hnew : who ∉ asked := fun hmem => by
        rw [h.mem_asked, hflag] at hmem
        cases hmem
      rw [if_pos ⟨rfl, rfl⟩, Finset.union_comm, ← Finset.insert_eq]
      refine ⟨by rw [List.length_set, h.created], ?_, fun i => ?_⟩
      · rw [Finset.card_insert_of_notMem hnew, h.closed]
      · rw [Finset.mem_insert, h.mem_asked]
        by_cases hi : who = i
        · subst hi
          exact iff_of_true (.inl rfl) (List.getElem?_set_self hlt)
        · rw [List.getElem?_set_ne hi]
          exact ⟨fun hor => hor.resolve_left (Ne.symm hi), .inr⟩

end Counted

/-! ## One request -/

/-- Whether a producer is asked to close. -/
def Producer.Ask.closes : Producer.Ask → Bool
  | send .. => false
  | close => true

/-- Whether a consumer is asked to close. -/
def Ask.closes : Ask → Bool
  | close => true
  | subscribe .. | unsubscribe | poll | stall _ => false

section Requests

variable (p : Producer) (c : Consumer) (w : Shared)

theorem Producer.Ask.run_send (topic : String) (e : Entry) (t : Ticket) {p p' : Producer}
    {w w' : Shared} {answer : Except BrokerError Unit}
    (h : (LogProducer.transmit topic e.key e.value t : Request Producer Unit) p w =
      ((answer, p'), w')) :
    (send topic e t).run p w = ((answer.map fun _ => [], p'), w') :=
  Act.bind_of_eq h

/-- A producer takes a record if it is open and the queue is not full, and reports on it once.  If
not, it does nothing. -/
theorem Producer.Ask.send_spec (topic : String) (e : Entry) (t : Ticket) :
    (p.closed = true ∨ w.broker.queueFull = true →
      ∃ cause, (send topic e t).run p w = ((.error cause, p), w)) ∧
    (p.closed = false → w.broker.queueFull = false →
      ∃ report w', Reported w topic e report w' ∧
        (send topic e t).run p w = ((.ok [], p), (Shared.settle t report w').2)) := by
  constructor
  · intro h
    cases hopen : p.closed with
    | true => exact ⟨_, run_send topic e t (transmit_of_closed topic e t w hopen)⟩
    | false =>
      have hfull := h.resolve_left (by rw [hopen]; exact Bool.false_ne_true)
      exact ⟨_, run_send topic e t (transmit_of_queueFull hopen topic e t w hfull)⟩
  · intro hopen hfull
    have hrun := run_send topic e t (transmit_of_not_queueFull hopen topic e t w hfull)
    cases hun : w.broker.unavailable with
    | true =>
      rw [report_of_unavailable topic e w hun] at hrun
      exact ⟨_, _, .refused _, hrun⟩
    | false =>
      rw [report_of_available topic e w hun] at hrun
      exact ⟨_, _, .appended (w.broker.appended_push topic e), hrun⟩

theorem Producer.Ask.send_cases (topic : String) (e : Entry) (t : Ticket) :
    (∃ cause, (send topic e t).run p w = ((.error cause, p), w)) ∨
      ∃ report w', Reported w topic e report w' ∧
        (send topic e t).run p w = ((.ok [], p), (Shared.settle t report w').2) := by
  obtain ⟨hrefused, htaken⟩ := send_spec p w topic e t
  by_cases h : p.closed = true ∨ w.broker.queueFull = true
  · exact .inl (hrefused h)
  · rw [not_or, Bool.not_eq_true, Bool.not_eq_true] at h
    exact .inr (htaken h.1 h.2)

/-- A producer that is closed does nothing more. -/
theorem Producer.Ask.run_of_closed {p : Producer} (hclosed : p.closed = true) (a : Producer.Ask) :
    a.run p w = ((if a.closes then .ok [] else .error .closed, p), w) := by
  cases a with
  | send topic e t => exact run_send topic e t (transmit_of_closed topic e t w hclosed)
  | close =>
    obtain ⟨closed, failsToClose⟩ := p
    subst hclosed
    rfl

/-- A consumer that is closed does nothing more.  It can still be told to stall, but it is not
polled. -/
theorem Ask.run_of_closed {c : Consumer} (hclosed : c.closed = true) {a : Ask}
    (ha : ∀ polls, a ≠ .stall polls) :
    a.run c w = ((if a.closes then .ok [] else .error .closed, c), w) := by
  obtain ⟨subscription, closed, failsToClose, stalledPolls, maxPollRecords, polls, calls⟩ := c
  subst hclosed
  cases a with
  | stall polls => exact absurd rfl (ha polls)
  | _ => rfl

theorem broker_settle (t : Ticket) (report : Report) (w : Shared) :
    (Shared.settle t report w).2.broker = w.broker := by
  cases t with
  | watcher => rfl
  | writer losses key => cases report <;> rfl

/-- A producer closes if it is asked to, and the broker hears of it once. -/
theorem Producer.Ask.run_spec (a : Producer.Ask) :
    ∃ answer p' w', a.run p w = ((answer, p'), w') ∧ p'.closed = (p.closed || a.closes) ∧
      w'.broker.counts = { w.broker.counts with
        producersClosed :=
          if a.closes ∧ p.closed = false then w.broker.counts.producersClosed + 1
          else w.broker.counts.producersClosed } := by
  cases a with
  | send topic e t =>
    have hno : ¬ ((send topic e t).closes = true ∧ p.closed = false) := nofun
    rw [if_neg hno]
    rcases send_cases p w topic e t with ⟨cause, hrun⟩ | ⟨report, w', hreported, hrun⟩
    · exact ⟨_, p, w, hrun, (Bool.or_false _).symm, rfl⟩
    · refine ⟨_, p, _, hrun, (Bool.or_false _).symm, ?_⟩
      rw [broker_settle]
      cases hreported <;> rfl
  | close =>
    obtain ⟨_ | _, _ | _⟩ := p <;> exact ⟨_, _, _, rfl, rfl, rfl⟩

theorem Consumer.closed_polled (c : Consumer) (b : Broker) : (c.polled b).2.closed = c.closed := by
  rw [Consumer.polled]
  split
  · rfl
  · cases c.subscription with
    | none => rfl
    | some s =>
      dsimp only
      split <;> rfl

/-- So does a consumer. -/
theorem Ask.run_spec (a : Ask) :
    ∃ answer c' w', a.run c w = ((answer, c'), w') ∧ c'.closed = (c.closed || a.closes) ∧
      w'.broker.counts = { w.broker.counts with
        consumersClosed :=
          if a.closes ∧ c.closed = false then w.broker.counts.consumersClosed + 1
          else w.broker.counts.consumersClosed } := by
  cases a with
  | poll =>
    obtain ⟨w', hpoll, hbroker⟩ := c.poll_eq w
    refine ⟨(c.polled w.broker).1, (c.polled w.broker).2, w', hpoll, ?_, ?_⟩
    · exact (c.closed_polled w.broker).trans (Bool.or_false _).symm
    · rw [hbroker, if_neg nofun]
  | unsubscribe =>
    rcases c with ⟨_ | ⟨topic, _ | _ | _, positions⟩, _ | _, _, _, _, _, _⟩ <;>
      exact ⟨_, _, _, rfl, rfl, rfl⟩
  | _ => rcases c with ⟨_, _ | _, _ | _, _, _, _, _⟩ <;> exact ⟨_, _, _, rfl, rfl, rfl⟩

end Requests

/-! ## One event -/

section Events

variable {s : Clients} {w w' : Shared} {who : Nat}
  {answer : Except BrokerError (List Record)}

theorem Event.run_producer {a : Producer.Ask} {answer? : Option (Except BrokerError (List Record))}
    {ps : List Producer} (h : a.run.member who s.producers w = ((answer?, ps), w')) :
    (producer who a).run s w = ((answer?, { s with producers := ps }), w') := by
  rw [run, Act.on_of_eq h]

theorem Event.run_consumer {a : Ask} {answer? : Option (Except BrokerError (List Record))}
    {cs : List Consumer} (h : a.run.member who s.consumers w = ((answer?, cs), w')) :
    (consumer who a).run s w = ((answer?, { s with consumers := cs }), w') := by
  rw [run, Act.on_of_eq h]

/-- The broker has counted its clients, of which these were asked to close. -/
structure Tallied (producers consumers : Finset Nat) (s : Clients) (n : ClientCounts) : Prop where
  producers : Counted (s.producers.map Producer.closed) n.producersCreated n.producersClosed
    producers
  consumers : Counted (s.consumers.map Consumer.closed) n.consumersCreated n.consumersClosed
    consumers

variable {ps cs : Finset Nat}

theorem closings_producer (a : Producer.Ask) :
    closings Event.closedProducer? [(.producer who a, some answer)] =
      if a.closes then {who} else ∅ := by
  cases a <;> rfl

theorem closings_consumer (a : Ask) :
    closings Event.closedConsumer? [(.consumer who a, some answer)] =
      if a.closes then {who} else ∅ := by
  cases a <;> rfl

/-- Nobody was asked to close if nobody answers. -/
theorem Tallied.of_none {n : ClientCounts} (h : Tallied ps cs s n) (e : Event) :
    Tallied (ps ∪ closings Event.closedProducer? [(e, none)])
      (cs ∪ closings Event.closedConsumer? [(e, none)]) s n := by
  have hnone (closed? : Event → Option Nat) : closings closed? [(e, none)] = ∅ := rfl
  rw [hnone, hnone, Finset.union_empty, Finset.union_empty]
  exact h

theorem counts_run (b : Broker) (c : Command) : (b.run c).2.counts = b.counts :=
  (congrArg Broker.counts (b.run_withCounts b.counts c)).trans rfl

/-- What happens to a broker and its clients is counted. -/
theorem Tallied.run (h : Tallied ps cs s w.broker.counts) (e : Event) :
    ∃ answer s' w', e.run s w = ((answer, s'), w') ∧
      Tallied (ps ∪ closings Event.closedProducer? [(e, answer)])
        (cs ∪ closings Event.closedConsumer? [(e, answer)]) s' w'.broker.counts := by
  cases e with
  | broker c =>
    refine ⟨none, s, _, rfl, .of_none ?_ _⟩
    exact (counts_run w.broker c).symm ▸ h
  | newProducer failsToClose =>
    refine ⟨none, _, _, rfl, Tallied.of_none ?_ _⟩
    refine ⟨?_, h.consumers⟩
    rw [List.map_append]
    exact h.producers.add
  | newConsumer maxPollRecords failsToClose =>
    refine ⟨none, _, _, rfl, Tallied.of_none ?_ _⟩
    refine ⟨h.producers, ?_⟩
    rw [List.map_append]
    exact h.consumers.add
  | producer who a =>
    cases hp : s.producers[who]? with
    | none => exact ⟨none, s, w, Event.run_producer (Act.member_of_none hp), h.of_none _⟩
    | some p =>
      obtain ⟨answer, p', w', hrun, hclosed, hcounts⟩ := a.run_spec p w
      refine ⟨_, _, w', Event.run_producer (Act.member_of_some hp hrun), ?_⟩
      have hflag : (s.producers.map Producer.closed)[who]? = some p.closed := by
        rw [List.getElem?_map, hp, Option.map_some]
      rw [hcounts, closings_producer]
      refine ⟨?_, (Finset.union_empty cs).symm ▸ h.consumers⟩
      rw [List.map_set, hclosed]
      exact h.producers.answer hflag a.closes
  | consumer who a =>
    cases hc : s.consumers[who]? with
    | none => exact ⟨none, s, w, Event.run_consumer (Act.member_of_none hc), h.of_none _⟩
    | some c =>
      obtain ⟨answer, c', w', hrun, hclosed, hcounts⟩ := a.run_spec c w
      refine ⟨_, _, w', Event.run_consumer (Act.member_of_some hc hrun), ?_⟩
      have hflag : (s.consumers.map Consumer.closed)[who]? = some c.closed := by
        rw [List.getElem?_map, hc, Option.map_some]
      rw [hcounts, closings_consumer]
      refine ⟨(Finset.union_empty ps).symm ▸ h.producers, ?_⟩
      rw [List.map_set, hclosed]
      exact h.consumers.answer hflag a.closes

end Events

/-! ## What is reported -/

section Reports

variable (w : Shared)

theorem reports_append {w w' : Shared} {os : List Observation}
    (h : w'.observations.toList = w.observations.toList ++ os) :
    reports w' = reports w ++ os.filterMap report? := by
  rw [reports, h, List.filterMap_append]
  rfl

/-- What a listener sees of an assignment are not reports. -/
theorem reports_assign (s : Subscription) : reports (s.assign w).2 = reports w := by
  obtain ⟨topic, listener, positions⟩ := s
  cases positions with
  | some positions => rfl
  | none =>
    cases listener with
    | none => rfl
    | some l =>
      cases l with
      | rewind r =>
        obtain ⟨n, ha⟩ := Subscription.assign_rewind ⟨topic, some (.rewind r), none⟩
          (fun l hl => ⟨r, (Option.some.inj hl).symm⟩) w
        rw [ha]
        rfl
      | probe commands =>
        have hseen : (commands.map w.broker.seen).filterMap report? = [] := by
          rw [List.filterMap_map]
          refine List.filterMap_eq_nil_iff.mpr fun command _ => ?_
          cases command <;> rfl
        rw [Subscription.assign_snd]
        refine (reports_append (assigned_probing topic commands w).2).trans ?_
        rw [List.filterMap_cons_none rfl, hseen, List.append_nil]

/-- No consumer reports on a record. -/
theorem Ask.reports_run (a : Ask) (c : Consumer) : reports (a.run c w).2 = reports w := by
  cases a with
  | poll =>
    cases hopen : c.closed with
    | true => rw [Ask.run_of_closed (a := .poll) w hopen nofun]
    | false =>
      cases hs : c.subscription with
      | none =>
        rw [run, Try.run_apply, Consumer.poll, Try.bind_of_ok (Try.get_apply c w), hopen, hs]
        rfl
      | some s =>
        obtain ⟨batch, positions, hpoll, -⟩ := Consumer.poll_spec hopen hs w
        rw [run, Try.run_apply, hpoll]
        exact reports_assign w s
  | unsubscribe =>
    rcases c with ⟨_ | ⟨topic, _ | _ | commands, positions⟩, _ | _, _, _, _, _, _⟩
    case some.some.probe.false =>
      exact (reports_append (Log.toList_push w.observations _)).trans (List.append_nil _)
    all_goals rfl
  | _ => rcases c with ⟨_, _ | _, _ | _, _, _, _, _⟩ <;> rfl

/-- A report is seen if a record was taken and its report is watched, and only then. -/
theorem Event.reports_run (e : Event) (s : Clients) :
    ∃ rs, reports (e.run s w).2 = reports w ++ rs ∧
      rs.length = [(e, (e.run s w).1.1)].countP watched := by
  have hsame : reports w = reports w ++ [] := (List.append_nil _).symm
  cases e with
  | broker c => exact ⟨[], hsame, rfl⟩
  | newProducer failsToClose => exact ⟨[], hsame, rfl⟩
  | newConsumer maxPollRecords failsToClose => exact ⟨[], hsame, rfl⟩
  | producer who a =>
    cases hp : s.producers[who]? with
    | none =>
      rw [run_producer (Act.member_of_none hp)]
      refine ⟨[], hsame, ?_⟩
      cases a with
      | send topic e t => cases t <;> rfl
      | close => rfl
    | some p =>
      cases a with
      | close =>
        rw [run_producer (Act.member_of_some hp rfl)]
        refine ⟨[], ?_, rfl⟩
        obtain ⟨_ | _, _ | _⟩ := p <;> exact hsame
      | send topic e t =>
        rcases Producer.Ask.send_cases p w topic e t with
          ⟨cause, hrun⟩ | ⟨report, w', hreported, hrun⟩
        · rw [run_producer (Act.member_of_self hp hrun)]
          refine ⟨[], hsame, ?_⟩
          cases t <;> rfl
        · rw [run_producer (Act.member_of_self hp hrun)]
          have hbefore : w'.observations = w.observations := by
            cases hreported <;> rfl
          cases t with
          | watcher =>
            have hseen : (Shared.settle .watcher report w').2.observations.toList =
                w.observations.toList ++ [.reported report] := by
              rw [Shared.settle_watcher, Log.toList_push, hbefore]
            exact ⟨[report], reports_append hseen, rfl⟩
          | writer losses key =>
            refine ⟨[], ?_, rfl⟩
            rw [← hsame, reports, reports, ← hbefore]
            cases report <;> rfl
  | consumer who a =>
    cases hc : s.consumers[who]? with
    | none =>
      rw [run_consumer (Act.member_of_none hc)]
      exact ⟨[], hsame, rfl⟩
    | some c =>
      rw [run_consumer (Act.member_of_some hc rfl)]
      exact ⟨[], (a.reports_run w c).trans hsame, rfl⟩

/-- Over a whole run, so many reports are seen as records were taken whose reports are watched. -/
theorem reports_history (es : List Event) (s : Clients) :
    ∃ rs, reports (history es s w).2 = reports w ++ rs ∧
      rs.length = (history es s w).1.1.countP watched := by
  induction es generalizing s w with
  | nil => exact ⟨[], (List.append_nil _).symm, rfl⟩
  | cons e es ih =>
    obtain ⟨rs, hfirst, hlength⟩ := e.reports_run w s
    obtain ⟨rs', hrest, hlength'⟩ := ih (e.run s w).2 (e.run s w).1.2
    refine ⟨rs ++ rs', ?_, ?_⟩
    · rw [← List.append_assoc, ← hfirst, ← hrest]
      rfl
    · rw [List.length_append, hlength, hlength', ← List.countP_append]
      rfl

end Reports

/-! ## All events -/

theorem closings_cons (closed? : Event → Option Nat)
    (x : Event × Option (Except BrokerError (List Record)))
    (h : List (Event × Option (Except BrokerError (List Record)))) :
    closings closed? (x :: h) = closings closed? [x] ∪ closings closed? h := by
  have hsplit : x :: h = [x] ++ h := rfl
  rw [hsplit, closings, List.filterMap_append, List.toFinset_append]
  rfl

theorem Tallied.history {ps cs : Finset Nat} {s : Clients} {w : Shared}
    (hx : Tallied ps cs s w.broker.counts) (es : List Event) :
    ∃ h s' w', history es s w = ((h, s'), w') ∧
      Tallied (ps ∪ closings Event.closedProducer? h) (cs ∪ closings Event.closedConsumer? h) s'
        w'.broker.counts := by
  induction es generalizing ps cs s w with
  | nil =>
    have hnil (closed? : Event → Option Nat) : closings closed? [] = ∅ := rfl
    refine ⟨[], s, w, rfl, ?_⟩
    rw [hnil, hnil, Finset.union_empty, Finset.union_empty]
    exact hx
  | cons e es ih =>
    obtain ⟨answer, s₁, w₁, hrun, h₁⟩ := hx.run e
    obtain ⟨h, s₂, w₂, hrest, h₂⟩ := ih h₁
    refine ⟨(e, answer) :: h, s₂, w₂, ?_, ?_⟩
    · rw [Broker.history, Act.bind_of_eq hrun, Act.bind_of_eq hrest]
      rfl
    · rw [closings_cons _ _ h, closings_cons _ _ h, ← Finset.union_assoc, ← Finset.union_assoc]
      exact h₂

/-- What clients promise, whatever has happened to them and to their broker before.  A producer that
is open and whose queue is not full takes a record and reports on it once, before it answers, and
any other answers an error and does nothing.  A client that was asked to close answers to all later
requests that it is closed, to close again that this is done, and does nothing.  The broker counts
each client that was asked to close once.  Of all reports, those are seen that are on a record that
was taken and are watched, one on each. -/
theorem promises_kept {w : Shared} (hw : w.broker.counts = {}) (es : List Event) :
    ∃ h s w', history es {} w = ((h, s), w') ∧
      (∀ who p, s.producers[who]? = some p → ∀ topic e t,
        (p.closed = true ∨ w'.broker.queueFull = true →
          ∃ cause, (Event.producer who (.send topic e t)).run s w' =
            ((some (.error cause), s), w')) ∧
        (p.closed = false → w'.broker.queueFull = false →
          ∃ report reported, Reported w' topic e report reported ∧
            (Event.producer who (.send topic e t)).run s w' =
              ((some (.ok []), s), (Shared.settle t report reported).2))) ∧
      (∀ who ∈ closings Event.closedProducer? h, ∀ a,
        (Event.producer who a).run s w' =
          ((some (if a.closes then .ok [] else .error .closed), s), w')) ∧
      (∀ who ∈ closings Event.closedConsumer? h, ∀ a, (∀ polls, a ≠ .stall polls) →
        (Event.consumer who a).run s w' =
          ((some (if a.closes then .ok [] else .error .closed), s), w')) ∧
      w'.broker.counts = ⟨s.producers.length, s.consumers.length,
        (closings Event.closedProducer? h).card, (closings Event.closedConsumer? h).card⟩ ∧
      w'.broker.counts.producersClosed ≤ w'.broker.counts.producersCreated ∧
      w'.broker.counts.consumersClosed ≤ w'.broker.counts.consumersCreated ∧
      ∃ rs, reports w' = reports w ++ rs ∧ rs.length = h.countP watched := by
  have hstart : Tallied ∅ ∅ {} w.broker.counts := by
    rw [hw]
    exact ⟨⟨rfl, rfl, fun _ => iff_of_false nofun nofun⟩,
      ⟨rfl, rfl, fun _ => iff_of_false nofun nofun⟩⟩
  obtain ⟨h, s, w', hrun, hps, hcs⟩ := hstart.history es
  rw [Finset.empty_union] at hps hcs
  have hreports := reports_history w es {}
  rw [hrun] at hreports
  refine ⟨h, s, w', hrun, fun who p hp topic e t => ⟨?_, ?_⟩, fun who hwho a => ?_,
    fun who hwho a ha => ?_, ?_, hps.closed_le, hcs.closed_le, hreports⟩
  · intro hrefuses
    obtain ⟨cause, hsend⟩ := (Producer.Ask.send_spec p w' topic e t).1 hrefuses
    exact ⟨cause, Event.run_producer (Act.member_of_self hp hsend)⟩
  · intro hopen hfull
    obtain ⟨report, reported, hreported, hsend⟩ :=
      (Producer.Ask.send_spec p w' topic e t).2 hopen hfull
    exact ⟨report, reported, hreported, Event.run_producer (Act.member_of_self hp hsend)⟩
  · have hflag := (hps.mem_asked who).mp hwho
    rw [List.getElem?_map, Option.map_eq_some_iff] at hflag
    obtain ⟨p, hp, hclosed⟩ := hflag
    exact Event.run_producer (Act.member_of_self hp (a.run_of_closed w' hclosed))
  · have hflag := (hcs.mem_asked who).mp hwho
    rw [List.getElem?_map, Option.map_eq_some_iff] at hflag
    obtain ⟨c, hc, hclosed⟩ := hflag
    exact Event.run_consumer (Act.member_of_self hc (Ask.run_of_closed w' hclosed ha))
  · have hcreated := hps.created
    have hcreated' := hcs.created
    rw [List.length_map] at hcreated hcreated'
    rw [← hps.closed, ← hcs.closed, ← hcreated, ← hcreated']

/-- What happens to a producer that fails to close, and to a consumer. -/
def troubles : List Event :=
  let send := Event.producer 0 (.send "t" ⟨[97], [1]⟩ .watcher)
  [.newProducer true, .newConsumer 500 false, .consumer 0 (.subscribe "t" none), send,
    .broker (.setQueueFull true), send, .broker (.setQueueFull false),
    .broker (.setUnavailable true), send, .consumer 0 .poll, .producer 0 .close,
    .producer 0 .close, .producer 1 .close]

theorem promises_kept_of_troubles :
    ∃ h s w', history troubles {} {} = ((h, s), w') ∧
      h.filterMap (·.2) = [.ok [], .ok [], .error (.unavailable "local queue is full"), .ok [],
        .ok [⟨0, 0, [97], [1]⟩], .error (.unavailable "failed to flush on close"), .ok []] ∧
      w'.observations.toList = [.reported (.ok ⟨"t", some 0, some 0⟩),
        .reported (.error ⟨some { topic := "t" }, .unavailable "broker is not reachable"⟩)] ∧
      (∀ topic e t, (Event.producer 0 (.send topic e t)).run s w' =
        ((some (.error .closed), s), w')) ∧
      w'.broker.counts = ⟨1, 1, 1, 0⟩ := by
  obtain ⟨h, s, w', hrun, -, hclosed, -, -, -⟩ := promises_kept (w := {}) rfl troubles
  have hanswers : (history troubles {} {}).1.1.filterMap (·.2) =
      [.ok [], .ok [], .error (.unavailable "local queue is full"), .ok [],
        .ok [⟨0, 0, [97], [1]⟩], .error (.unavailable "failed to flush on close"), .ok []] := by
    decide +kernel
  have hreports : (history troubles {} {}).2.observations.toList =
      [.reported (.ok ⟨"t", some 0, some 0⟩),
        .reported (.error ⟨some { topic := "t" }, .unavailable "broker is not reachable"⟩)] := by
    decide +kernel
  have hmem : 0 ∈ closings Event.closedProducer? (history troubles {} {}).1.1 := by decide +kernel
  have hcounts : (history troubles {} {}).2.broker.counts = ⟨1, 1, 1, 0⟩ := by decide +kernel
  rw [hrun] at hanswers hreports hmem hcounts
  exact ⟨h, s, w', hrun, hanswers, hreports, fun topic e t => hclosed 0 hmem (.send topic e t),
    hcounts⟩

end PositionLog.Broker
