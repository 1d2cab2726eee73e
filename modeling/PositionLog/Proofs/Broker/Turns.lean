import PositionLog.Proofs.Broker.Poll
import PositionLog.Proofs.Broker.Reading
import PositionLog.Proofs.Shared

/-!
# Several consumers of one broker

Consumers do what they are asked to, in any order, while the broker is given commands.  All that a
consumer learns of the others is how many of them there are, and nothing that it does depends on
that.  So it reads the same when the turns of all others are left out.
-/

namespace PositionLog.Broker

/-- What a consumer can be asked to do. -/
inductive Ask where
  | subscribe (topic : String) (listener : Option Listener)
  | unsubscribe
  | poll
  | stall (polls : Nat)
  | close
deriving DecidableEq, Repr

/-- What can happen to a broker and its consumers. -/
inductive Turn where
  | broker (c : Command)
  | consumer (who : Nat) (a : Ask)
deriving DecidableEq, Repr

/-- A consumer does what it is asked to.  Only polls are answered by records. -/
def Ask.run : Ask → Act Consumer (Except BrokerError (List Record))
  | subscribe topic l => do return (← (Consumer.subscribe topic l).run).map fun _ => []
  | unsubscribe => do return (← Consumer.unsubscribe.run).map fun _ => []
  | poll => Consumer.poll.run
  | stall polls => do
    modify (·.stall polls)
    return .ok []
  | close => do return (← Consumer.close.run).map fun _ => []

def Turn.run : Turn → Act (List Consumer) Unit
  | broker c => do
    let _ ← Shared.command c
  | consumer who a => do
    let _ ← a.run.member who

/-- A poll, with what was shared before and after it. -/
structure Polled where
  before : Shared
  stalled : Bool
  answer : Except BrokerError (List Record)
  after : Shared

/-- The poll of a consumer that a turn is, if it is one. -/
def Turn.polled? (who : Nat) (cs : List Consumer) (w : Shared) : Turn → Option Polled
  | consumer i .poll =>
    if i = who then
      cs[i]?.map fun c => ⟨w, 0 < c.stalledPolls, (Consumer.poll c w).1.1, (Consumer.poll c w).2⟩
    else none
  | _ => none

/-- All polls of a consumer. -/
def polls (who : Nat) (cs : List Consumer) (w : Shared) : List Turn → List Polled
  | [] => []
  | t :: ts => (t.polled? who cs w).toList ++ polls who (t.run cs w).1.2 (t.run cs w).2 ts

/-! ## What is done to the broker -/

/-- The broker, with other counts of its clients. -/
def withCounts (b : Broker) (n : ClientCounts) : Broker := { b with counts := n }

theorem sameLogs_withCounts (b : Broker) (n : ClientCounts) : b.SameLogs (b.withCounts n) :=
  ⟨rfl, rfl⟩

section Commands

variable (b : Broker) (n : ClientCounts) (topic : String)

theorem extends_append (t : String) (e : Entry) :
    ∀ x, b.append t e = .ok x → b.Extends x.2 topic := by
  rintro ⟨place, b'⟩ h
  rw [append_eq] at h
  split at h
  · exact absurd h nofun
  · cases h
    exact b.extends_push t e topic

theorem append_withCounts (t : String) (e : Entry) :
    (b.withCounts n).append t e = (b.append t e).map fun x => (x.1, x.2.withCounts n) := by
  have hun : (b.withCounts n).unavailable = b.unavailable := rfl
  rw [append_eq, append_eq, hun]
  split <;> rfl

theorem extends_appendAll (t : String) (places : List Metadata) (es : List Entry) :
    b.Extends (b.appendAll t places es).2 topic := by
  induction es generalizing b places with
  | nil => exact .refl b topic
  | cons e es ih =>
    rw [appendAll]
    cases h : b.append t e with
    | error cause => exact .refl b topic
    | ok x => exact (b.extends_append topic t e x h).trans (ih x.2 _)

theorem appendAll_withCounts (t : String) (places : List Metadata) (es : List Entry) :
    ((b.withCounts n).appendAll t places es).2 = (b.appendAll t places es).2.withCounts n := by
  induction es generalizing b places with
  | nil => rfl
  | cons e es ih =>
    rw [appendAll, appendAll, append_withCounts]
    cases b.append t e with
    | error cause => rfl
    | ok x => exact ih x.2 _

/-- A command leaves what is logged where it is. -/
theorem extends_run (c : Command) : b.Extends (b.run c).2 topic := by
  cases c with
  | append t key value =>
    rw [run]
    cases h : b.append t ⟨key, value⟩ with
    | error cause => exact .refl b topic
    | ok x => exact b.extends_append topic t _ x h
  | appendMany t stem first last factor => exact b.extends_appendAll topic t _ _
  | setUnavailable on => exact ⟨rfl, fun _ => List.prefix_rfl⟩
  | setQueueFull on => exact ⟨rfl, fun _ => List.prefix_rfl⟩
  | recordCount t => exact .refl b topic
  | endOffset p => exact .refl b topic
  | counts => exact .refl b topic

/-- No command goes by how many clients there are. -/
theorem run_withCounts (c : Command) :
    ((b.withCounts n).run c).2 = (b.run c).2.withCounts n := by
  cases c with
  | append t key value =>
    rw [run, run, append_withCounts]
    cases b.append t ⟨key, value⟩ <;> rfl
  | appendMany t stem first last factor => exact b.appendAll_withCounts n t _ _
  | setUnavailable on => rfl
  | setQueueFull on => rfl
  | recordCount t => rfl
  | endOffset p => rfl
  | counts => rfl

end Commands

/-! ## What a consumer goes by -/

section SameLogs

variable {b b' : Broker}

theorem SameLogs.takeUnread_eq (h : b.SameLogs b') (topic : String) (limit : Nat)
    (positions : Slots Nat) :
    b'.takeUnread topic limit positions = b.takeUnread topic limit positions := by
  have hread (p start count : Nat) : b'.read topic p start count = b.read topic p start count := by
    rw [Store.read, Store.read, h.entries_eq]
  have hfrom (ps : List Nat) (room : Nat) (taken : List Record) (positions : Slots Nat) :
      b'.takeFrom topic ps room taken positions = b.takeFrom topic ps room taken positions := by
    induction ps generalizing room taken positions with
    | nil => rfl
    | cons p ps ih => simp only [takeFrom, hread, ih]
  rw [takeUnread, takeUnread, hfrom, h.partitions]

theorem SameLogs.settled_eq (h : b.SameLogs b') (s : Subscription) :
    s.settled b' = s.settled b := by
  obtain ⟨_, _⟩ := b
  obtain ⟨_, _⟩ := b'
  obtain rfl := h.toStore_eq
  rfl

/-- What a poll answers, and what the consumer is then. -/
def Consumer.polled (c : Consumer) (b : Broker) : Except BrokerError (List Record) × Consumer :=
  if c.closed then (.error .closed, c)
  else
    match c.subscription with
    | none => (.error (.invalidState "consumer is not subscribed to any topic"), c)
    | some s =>
      if 0 < c.stalledPolls then
        (.ok [], c.reading s (s.settled b) (c.stalledPolls - 1) (c.polls + 1))
      else
        let x := b.takeUnread s.topic c.maxPollRecords (s.settled b)
        (.ok x.1, c.reading s x.2 0 (c.polls + 1))

theorem Consumer.polled_congr (h : b.SameLogs b') (c : Consumer) : c.polled b' = c.polled b := by
  unfold polled
  simp only [h.settled_eq, h.takeUnread_eq]

end SameLogs

/-- A poll goes by the broker, and leaves it as it is. -/
theorem Consumer.poll_eq (c : Consumer) (w : Shared) :
    ∃ w', poll c w = (c.polled w.broker, w') ∧ w'.broker = w.broker := by
  unfold polled
  cases hopen : c.closed with
  | true =>
    rw [if_pos rfl, poll, Try.bind_of_ok (Try.get_apply c w), hopen]
    exact ⟨w, rfl, rfl⟩
  | false =>
    rw [if_neg Bool.false_ne_true]
    cases hs : c.subscription with
    | none =>
      rw [poll, Try.bind_of_ok (Try.get_apply c w), hopen, hs]
      exact ⟨w, rfl, rfl⟩
    | some s =>
      obtain ⟨w', ha, hw'⟩ := s.assign_apply w
      refine ⟨w', ?_, hw'⟩
      dsimp only
      cases hk : c.stalledPolls with
      | succ k => rw [poll_of_stalled hopen hs ha hk, if_pos k.succ_pos, Nat.add_sub_cancel]
      | zero => rw [poll_apply hopen hs ha hk, if_neg (Nat.lt_irrefl 0), hw']

/-- A step of a consumer goes by the logs alone, and changes nothing about the broker but how many
clients it has. -/
structure Insular {α : Type} (x : Act Consumer α) : Prop where
  congr : ∀ {w w' : Shared} (c : Consumer), w.broker.SameLogs w'.broker → (x c w').1 = (x c w).1
  broker : ∀ c w, ∃ n, (x c w).2.broker = w.broker.withCounts n

theorem Insular.map {α β : Type} {x : Act Consumer α} (h : Insular x) (f : α → β) :
    Insular (do return f (← x) : Act Consumer β) where
  congr c hw := congrArg (fun r : α × Consumer => (f r.1, r.2)) (h.congr c hw)
  broker := h.broker

theorem insular_subscribe (topic : String) (l : Option Listener) :
    Insular (Consumer.subscribe topic l).run where
  congr c _ := by
    cases hopen : c.closed <;> simp [Consumer.subscribe, hopen]
  broker c w := by
    refine ⟨w.broker.counts, ?_⟩
    cases hopen : c.closed <;> simp [Consumer.subscribe, hopen, withCounts]

theorem insular_unsubscribe : Insular Consumer.unsubscribe.run where
  congr c _ := by
    rcases c with ⟨_ | ⟨topic, _ | _ | _, positions⟩, _ | _, _, _, _, _, _⟩ <;> rfl
  broker c w := by
    refine ⟨w.broker.counts, ?_⟩
    rcases c with ⟨_ | ⟨topic, _ | _ | _, positions⟩, _ | _, _, _, _, _, _⟩ <;> rfl

theorem insular_poll : Insular Consumer.poll.run where
  congr {w w'} c h := by
    obtain ⟨w₁, hpoll, -⟩ := c.poll_eq w
    obtain ⟨w₂, hpoll', -⟩ := c.poll_eq w'
    rw [Try.run_apply, Try.run_apply, hpoll, hpoll', Consumer.polled_congr h]
  broker c w := by
    obtain ⟨w', hpoll, hbroker⟩ := c.poll_eq w
    refine ⟨w.broker.counts, ?_⟩
    rw [Try.run_apply, hpoll, hbroker]
    rfl

theorem insular_close : Insular Consumer.close.run where
  congr c _ := by
    rcases c with ⟨_, _ | _, _ | _, _, _, _, _⟩ <;> rfl
  broker c w := by
    rcases c with ⟨_, _ | _, _ | _, _, _, _, _⟩ <;> exact ⟨_, rfl⟩

theorem Ask.insular (a : Ask) : Insular a.run := by
  cases a with
  | subscribe topic l => exact (insular_subscribe topic l).map _
  | unsubscribe => exact insular_unsubscribe.map _
  | poll => exact insular_poll
  | stall polls => exact ⟨fun _ _ => rfl, fun _ w => ⟨w.broker.counts, rfl⟩⟩
  | close => exact insular_close.map _

/-! ## One consumer among others -/

/-- Whether a consumer could notice a turn. -/
def Turn.concerns (who : Nat) : Turn → Bool
  | broker _ => true
  | consumer i _ => i = who

/-- What can be noticed of a poll. -/
def Polled.outcome (x : Polled) : Bool × Except BrokerError (List Record) := (x.stalled, x.answer)

/-- A consumer is the same here and there, and so is the broker but for the number of its
clients. -/
structure Alike (who : Nat) (cs : List Consumer) (w : Shared) (cs' : List Consumer) (w' : Shared) :
    Prop where
  own : cs'[who]? = cs[who]?
  broker : ∃ n, w'.broker = w.broker.withCounts n

section Alike

variable {who : Nat} {cs cs' : List Consumer} {w w' : Shared}

theorem Alike.refl (who : Nat) (cs : List Consumer) (w : Shared) : Alike who cs w cs w :=
  ⟨rfl, w.broker.counts, rfl⟩

theorem Turn.run_consumer (who : Nat) (a : Ask) (cs : List Consumer) (w : Shared) :
    (consumer who a).run cs w =
      (((), (a.run.member who cs w).1.2), (a.run.member who cs w).2) := rfl

theorem broker_member (who : Nat) (a : Ask) (cs : List Consumer) (w : Shared) :
    ∃ n, (a.run.member who cs w).2.broker = w.broker.withCounts n := by
  cases hc : cs[who]? with
  | none =>
    rw [Act.member_of_none hc]
    exact ⟨w.broker.counts, rfl⟩
  | some c =>
    rw [Act.member_of_some hc rfl]
    exact a.insular.broker c w

theorem getElem?_member_congr (h : cs'[who]? = cs[who]?) (hlogs : w.broker.SameLogs w'.broker)
    (a : Ask) :
    (a.run.member who cs' w').1.2[who]? = (a.run.member who cs w).1.2[who]? := by
  cases hc : cs[who]? with
  | none => rw [Act.member_of_none hc, Act.member_of_none (h.trans hc), h]
  | some c =>
    have hlt := (List.getElem?_eq_some_iff.mp hc).1
    have hlt' := (List.getElem?_eq_some_iff.mp (h.trans hc)).1
    rw [Act.member_of_some hc rfl, Act.member_of_some (h.trans hc) rfl,
      List.getElem?_set_self hlt, List.getElem?_set_self hlt']
    exact congrArg (fun r : _ × Consumer => some r.2) (a.insular.congr c hlogs)

theorem Alike.sameLogs (h : Alike who cs w cs' w') : w.broker.SameLogs w'.broker := by
  obtain ⟨n, hn⟩ := h.broker
  rw [hn]
  exact w.broker.sameLogs_withCounts n

/-- The turn of another consumer makes no difference. -/
theorem Alike.of_other (h : Alike who cs w cs' w') {i : Nat} (hi : who ≠ i) (a : Ask) :
    Alike who ((Turn.consumer i a).run cs w).1.2 ((Turn.consumer i a).run cs w).2 cs' w' := by
  obtain ⟨n, hn⟩ := h.broker
  obtain ⟨m, hm⟩ := broker_member i a cs w
  refine ⟨h.own.trans (Act.getElem?_member_of_ne hi).symm, n, ?_⟩
  rw [Turn.run_consumer, hm]
  exact hn

/-- Any other turn makes the same difference. -/
theorem Alike.run (h : Alike who cs w cs' w') {t : Turn} (ht : t.concerns who = true) :
    Alike who (t.run cs w).1.2 (t.run cs w).2 (t.run cs' w').1.2 (t.run cs' w').2 := by
  obtain ⟨n, hn⟩ := h.broker
  cases t with
  | broker c =>
    refine ⟨h.own, n, ?_⟩
    exact (congrArg (fun b : Broker => (b.run c).2) hn).trans (w.broker.run_withCounts n c)
  | consumer i a =>
    obtain rfl : i = who := of_decide_eq_true ht
    obtain ⟨m, hm⟩ := broker_member i a cs w
    obtain ⟨m', hm'⟩ := broker_member i a cs' w'
    refine ⟨getElem?_member_congr h.own h.sameLogs a, m', ?_⟩
    rw [Turn.run_consumer, Turn.run_consumer, hm, hm', hn]
    rfl

/-- If it is a poll, it comes to the same. -/
theorem Alike.polled? (h : Alike who cs w cs' w') (t : Turn) :
    (t.polled? who cs' w').map Polled.outcome = (t.polled? who cs w).map Polled.outcome := by
  cases t with
  | broker c => rfl
  | consumer i a =>
    cases a with
    | poll =>
      by_cases hi : i = who
      · subst hi
        rw [Turn.polled?, Turn.polled?, if_pos rfl, if_pos rfl, h.own, Option.map_map,
          Option.map_map]
        congr 1
        funext c
        exact congrArg (fun r : _ × Consumer => (decide (0 < c.stalledPolls), r.1))
          (insular_poll.congr c h.sameLogs)
      · rw [Turn.polled?, Turn.polled?, if_neg hi, if_neg hi]
    | _ => rfl

theorem Turn.polled?_of_other {t : Turn} (ht : t.concerns who = false) :
    t.polled? who cs w = none := by
  cases t with
  | broker c => rfl
  | consumer i a =>
    cases a with
    | poll => exact if_neg (of_decide_eq_false ht)
    | _ => rfl

/-- A consumer reads the same when the turns of the others are left out. -/
theorem Alike.polls_filter (h : Alike who cs w cs' w') (ts : List Turn) :
    (polls who cs w ts).map Polled.outcome =
      (polls who cs' w' (ts.filter (Turn.concerns who))).map Polled.outcome := by
  induction ts generalizing cs w cs' w' with
  | nil => rfl
  | cons t ts ih =>
    cases ht : t.concerns who with
    | true =>
      rw [List.filter_cons_of_pos ht, polls, polls, List.map_append, List.map_append,
        ih (h.run ht)]
      congr 1
      rw [← Option.toList_map, ← Option.toList_map, h.polled?]
    | false =>
      rw [List.filter_cons_of_neg (by rw [ht]; exact Bool.false_ne_true), polls,
        Turn.polled?_of_other ht]
      cases t with
      | broker c => exact absurd ht Bool.true_eq_false.mp
      | consumer i a => exact ih (h.of_other (Ne.symm (of_decide_eq_false ht)) a)

end Alike

end PositionLog.Broker
