import PositionLog.Proofs.Alarms.Clients
import PositionLog.Proofs.Rewind.Visits

/-!
# What clients are heard to fail at

Clients of any kind are listened to, and each of their calls that fails is noted as soon as it is
answered, whether or not anybody looks at the answer.  Cursors, which are at work while a consumer
is polled, are listened to apart.
-/

namespace PositionLog

/-- What a client was to do. -/
inductive Deed where
  | create (role : ClientRole)
  | send (topic : String)
  | subscribe
  | unsubscribe
  | poll
  | close (role : ClientRole)
deriving DecidableEq, Repr

/-- To read or set a position is up to a cursor, and no deed of the client itself. -/
def Call.deed? : Call → Option Deed
  | create role _ => some (.create role)
  | send topic _ _ => some (.send topic)
  | closeProducer => some (.close .producer)
  | subscribe .. => some .subscribe
  | unsubscribe => some .unsubscribe
  | poll _ => some .poll
  | closeConsumer => some (.close .consumer)
  | endOffset _ | seek .. => none

/-- Nor is to deliver what was sent. -/
def Mishap.deed? : Mishap → Option Deed
  | create role _ => some (.create role)
  | send topic _ => some (.send topic)
  | subscribe _ => some .subscribe
  | unsubscribe .. => some .unsubscribe
  | poll _ => some .poll
  | close role _ => some (.close role)
  | delivery _ | endOffset .. | seek .. => none

/-- A deed that failed, and the number of its cause.  It is noted as a call on the party with this
number. -/
abbrev Failure := Nat × Deed

def Observation.failure? : Observation → Option Failure
  | called number call => call.deed?.map (number, ·)
  | _ => none

def Mishap.failure? (number : BrokerError → Nat) (m : Mishap) : Option Failure :=
  m.deed?.map (number m.cause, ·)

namespace Shared

/-- What was noted. -/
def failures (w : Shared) : List Failure := w.observations.toList.filterMap Observation.failure?

/-- What was noted in between is of these mishaps, in order. -/
def Noted (number : BrokerError → Nat) (w w' : Shared) (ms : List Mishap) : Prop :=
  w'.failures = w.failures ++ ms.filterMap (Mishap.failure? number)

variable {number : BrokerError → Nat} {w w' w'' : Shared} {ms ms' : List Mishap}

theorem Noted.of_eq (h : w'.failures = w.failures) : Noted number w w' [] :=
  h.trans (List.append_nil _).symm

theorem Noted.refl (w : Shared) : Noted number w w [] := .of_eq rfl

/-- Of what is no deed of a client there are no notes. -/
theorem noted_of_forall (h : ∀ m ∈ ms, m.deed? = none) (w : Shared) : Noted number w w ms := by
  have hnone : ms.filterMap (Mishap.failure? number) = [] :=
    List.filterMap_eq_nil_iff.mpr fun m hm => by rw [Mishap.failure?, h m hm, Option.map_none]
  rw [Noted, hnone, List.append_nil]

theorem Noted.trans (h : Noted number w w' ms) (h' : Noted number w' w'' ms') :
    Noted number w w'' (ms ++ ms') := by
  rw [Noted, h', h, List.append_assoc, List.filterMap_append]

/-- What was noted in between is of these incidents, in order. -/
def Recorded (number : BrokerError → Nat) (w w' : Shared) (is : List Incident) : Prop :=
  Noted number w w' (is.map Incident.mishap)

theorem addsUp_recorded (number : BrokerError → Nat) : AddsUp (Recorded number) where
  refl := .refl
  trans h h' := by
    rw [Recorded, List.map_append]
    exact Noted.trans h h'
  tell _ _ := .of_eq rfl

/-- It does not count what whoever asked was answered. -/
theorem Noted.recorded (h : Noted number w w' ms) (answer : Except Error Unit) :
    Recorded number w w' (Incident.answered answer ms) := by
  rw [Recorded, Incident.map_mishap_answered]
  exact h

/-- A complaint is no note. -/
theorem Noted.complained (h : Noted number w w' ms) (complaint : BrokerError → Notice)
    (result : Except BrokerError Unit) : Noted number w (w'.complained complaint result) ms := by
  cases result <;> exact h

theorem failures_observe {o : Observation} (h : o.failure? = none) (w : Shared) :
    (observe o w).2.failures = w.failures := by
  rw [observe_apply, failures, Log.toList_push, List.filterMap_append, List.filterMap_cons_none h]
  exact List.append_nil _

/-- Nor is a report, whatever it tells. -/
theorem noted_settle (t : Ticket) (report : Report) (w : Shared) :
    Noted number w (settle t report w).2 (t.mishaps report) := by
  cases t with
  | watcher => exact .of_eq (failures_observe rfl w)
  | writer losses key => cases report <;> exact (List.append_nil _).symm

theorem noted_drop {P : Type} [LogProducer P] (producer : P) (w : Shared) :
    Noted number w (LogProducer.drop producer w).2 (LogProducer.mishapsOfDrop producer) := by
  rw [LogProducer.drop, LogProducer.mishapsOfDrop]
  induction LogProducer.abandoned producer generalizing w with
  | nil => exact .refl w
  | cons x xs ih => exact (noted_settle x.1 x.2 w).trans (ih _)

end Shared

/-! ## Clients -/

/-- A client of which every call that fails is noted.  Of what it lets be seen by itself nothing is
kept, so that nobody else takes notes. -/
structure Overheard (number : BrokerError → Nat) (C : Type) where
  client : C

namespace Overheard

variable {number : BrokerError → Nat} {C α : Type}

/-- What is seen once a call is answered: what was seen before, and a note if the call failed. -/
def heard (number : BrokerError → Nat) (call : Call) (seen : Log Observation) :
    Except BrokerError α → Log Observation
  | .ok _ => seen
  | .error cause => seen.push (.called (number cause) call)

/-- A request to the client itself. -/
def ask (call : Call) (x : Request C α) : Request (Overheard number C) α :=
  ExceptT.mk fun s => do
    let seen := (← get).observations
    let (answer, client) ← (x s.client : StateM Shared _)
    modify ({ · with observations := heard number call seen answer })
    return (answer, ⟨client⟩)

/-- The client itself answers the same, and gives the same alarms. -/
theorem ask_apply (call : Call) (x : Request C α) (s : Overheard number C) (w : Shared) :
    ask call x s w = (((x s.client w).1.1, ⟨(x s.client w).1.2⟩),
      { (x s.client w).2 with
        observations := heard number call w.observations (x s.client w).1.1 }) := rfl

/-- If a call fails there is a note of this mishap. -/
theorem noted_ask {call : Call} {x : Request C α} {mishap : BrokerError → Mishap}
    {s s' : Overheard number C} {answer : Except BrokerError α} {w w' : Shared}
    (h : ∀ cause, (mishap cause).failure? number =
      (Observation.called (number cause) call).failure?)
    (hask : ask call x s w = ((answer, s'), w')) :
    w.Noted number w' (Mishap.ofAnswer mishap answer) := by
  rw [ask_apply] at hask
  cases hask
  cases (x s.client w).1.1 with
  | ok a => exact (List.append_nil _).symm
  | error cause =>
    have hnote := congrArg (List.filterMap Observation.failure?)
      (Log.toList_push w.observations (.called (number cause) call))
    rw [List.filterMap_append, List.filterMap_cons, ← h cause] at hnote
    exact hnote

instance [LogProducer C] : LogProducer (Overheard number C) where
  send topic key value t := ask (.send topic key value) (LogProducer.send topic key value t)
  close := ask .closeProducer LogProducer.close
  abandoned s := LogProducer.abandoned s.client

instance [LogConsumer C] : LogConsumer (Overheard number C) where
  subscribe topic l := ask (.subscribe topic l.isSome) (LogConsumer.subscribe topic l)
  unsubscribe := ask .unsubscribe LogConsumer.unsubscribe
  poll timeout := ask (.poll timeout) (LogConsumer.poll timeout)
  close := ask .closeConsumer LogConsumer.close
  backlog s := LogConsumer.backlog s.client

/-- The clients that a factory makes are overheard as well. -/
instance {F P C : Type} [ClientFactory F P C] :
    ClientFactory (Overheard number F) (Overheard number P) (Overheard number C) where
  createProducer properties :=
    .mk <$> ask (.create .producer properties) (ClientFactory.createProducer properties)
  createConsumer properties :=
    .mk <$> ask (.create .consumer properties) (ClientFactory.createConsumer properties)

section Map

variable {β : Type} {f : α → β} {call : Call} {x : Request C α} {s : Overheard number C}
  {w : Shared}

theorem map_ask_snd : ((f <$> ask call x : Request (Overheard number C) β) s w).2 =
    (ask call x s w).2 := by
  rw [Try.map_apply]
  cases (ask call x s w).1.1 <;> rfl

theorem noted_map_ask {mishap : BrokerError → Mishap} {s' : Overheard number C}
    {answer : Except BrokerError β} {w' : Shared}
    (h : ∀ cause, (mishap cause).failure? number =
      (Observation.called (number cause) call).failure?)
    (hask : (f <$> ask call x : Request (Overheard number C) β) s w = ((answer, s'), w')) :
    w.Noted number w' (Mishap.ofAnswer mishap answer) := by
  rw [Try.map_apply] at hask
  rcases hx : ask call x s w with ⟨⟨cause | a, s₁⟩, w₁⟩
  all_goals
    have hnoted := noted_ask h hx
    rw [hx] at hask
    cases hask
    exact hnoted

end Map

/-! To be overheard makes no alarm. -/

instance [LogProducer C] [LogProducer.Quiet C] : LogProducer.Quiet (Overheard number C) where
  send topic key value t s := LogProducer.Quiet.send topic key value t s.client
  close s := LogProducer.Quiet.close s.client

instance {F P C : Type} [ClientFactory F P C] [ClientFactory.Quiet F] :
    ClientFactory.Quiet (Overheard number F) where
  createProducer properties f w :=
    (congrArg Shared.alarms map_ask_snd).trans
      (ClientFactory.Quiet.createProducer (P := P) (C := C) properties f.client w)
  createConsumer properties f w :=
    (congrArg Shared.alarms map_ask_snd).trans
      (ClientFactory.Quiet.createConsumer (P := P) (C := C) properties f.client w)

instance [LogConsumer C] [LogConsumer.Audited C] : LogConsumer.Audited (Overheard number C) where
  hears timeout s := LogConsumer.Audited.hears timeout s.client
  subscribe topic l s := LogConsumer.Audited.subscribe topic l s.client
  unsubscribe s := LogConsumer.Audited.unsubscribe s.client
  poll timeout s w answer :=
    have htold := LogConsumer.Audited.poll timeout s.client w answer
    ⟨htold.accounted, htold.settled⟩
  close s := LogConsumer.Audited.close s.client

end Overheard

/-! ## Writing -/

section Write

variable {number : BrokerError → Nat} {P : Type} [LogProducer P]

theorem Writer.noted_append (x : Writer) (key value : Bytes) (producer : Overheard number P)
    (w : Shared) :
    w.Noted number ((x.append key value : Request (Overheard number P) Unit) producer w).2
      (x.mishaps key value producer w) := by
  rcases hsend : (LogProducer.send x.topic key value (.writer x.losses key) :
    Request (Overheard number P) Receipt) producer w with ⟨⟨answer, producer'⟩, w₁⟩
  have hsent : w.Noted number w₁ (Mishap.ofAnswer (.send x.topic) answer) :=
    Overheard.noted_ask (fun _ => rfl) hsend
  rw [append_of_answer hsend, mishaps, hsend]
  rcases answer with cause | report | _
  · cases cause <;> exact hsent
  · exact hsent.trans (Shared.noted_settle _ report w₁)
  · exact hsent

theorem WritePath.noted_publish (p : Position) (s : WritePath (Overheard number P)) (w : Shared) :
    w.Noted number (publish p s w).2 (s.mishaps p w) := by
  obtain ⟨x, _ | producer, cache⟩ := s
  · exact .refl w
  · let w₁ := (Shared.tell (.updating x.topic p.key.length p.value.length) w).2
    have happended := x.noted_append p.key p.value producer w₁
    rcases happend : (x.append p.key p.value : Request (Overheard number P) Unit) producer w₁ with
      ⟨⟨result, producer'⟩, w₂⟩
    rw [happend] at happended
    rw [publish_of_answer (s := ⟨x, some producer, cache⟩) rfl happend]
    cases cache <;> exact happended

end Write

/-- A deserializer that has nothing noted but what comes of its publishing. -/
class Deserializer.Unheard (D : Type) [Deserializer D] [Deserializer.Audited D] : Prop where
  deserialize {P : Type} [LogProducer P] (number : BrokerError → Nat) (key value : Bytes)
    (i : Intake D (Overheard number P)) (w : Shared) :
    w.Recorded number (Deserializer.deserialize key value i w).2
      ((Deserializer.Audited.publishes key value i w).flatMap Publication.incidents)

instance : Deserializer.Unheard Loader where
  deserialize number key value i w := by
    apply Shared.Noted.of_eq
    change (i.deserializer.load key value w).2.failures = w.failures
    rw [Loader.load]
    cases Position.ofRecord? key value <;> rfl

namespace Scripted.Deserializer

variable {number : BrokerError → Nat} {P : Type} [LogProducer P]

/-- What is seen of a hook is no note. -/
theorem recorded_runHook (h : Hook) (write : Option (WritePath (Overheard number P)))
    (w : Shared) :
    w.Recorded number (runHook h write w).2
      ((hookPublishes h write w).flatMap Publication.incidents) := by
  have hseen (reply : HookReply) (w : Shared) :
      (Shared.observe (.hooked reply) w).2.failures = w.failures := Shared.failures_observe rfl w
  cases write with
  | none => cases h <;> exact .of_eq (hseen _ _)
  | some path =>
    cases h with
    | publish p =>
      rw [hookPublishes, List.flatMap_singleton]
      exact (hseen _ _).trans ((WritePath.noted_publish p path w).recorded _)
    | broker c => exact .of_eq (hseen _ _)
    | losses => exact .of_eq (hseen _ _)
    | clearLosses => exact .of_eq (hseen _ _)

theorem recorded_hooks (hs : List Hook) (write : Option (WritePath (Overheard number P)))
    (w : Shared) :
    w.Recorded number (hs.forM runHook write w).2
      ((hooksPublish hs write w).flatMap Publication.incidents) := by
  induction hs generalizing write w with
  | nil => exact .refl w
  | cons h hs ih =>
    rw [hooksPublish, List.flatMap_append]
    exact (Shared.addsUp_recorded number).trans (recorded_runHook h write w) (ih _ _)

end Scripted.Deserializer

instance : Deserializer.Unheard Scripted.Deserializer where
  deserialize number key value i w := by
    have hseen : w.Recorded number (Shared.observe (.record key value) w).2 [] :=
      .of_eq (Shared.failures_observe rfl w)
    exact (Shared.addsUp_recorded number).trans hseen
      (Scripted.Deserializer.recorded_hooks _ i.write _)

instance : Deserializer.Unheard Session.AnyDeserializer where
  deserialize number key value i w := by
    rcases i with ⟨l | d, write⟩
    · exact Deserializer.Unheard.deserialize number key value (⟨l, write⟩ : Intake Loader _) w
    · exact Deserializer.Unheard.deserialize number key value
        (⟨d, write⟩ : Intake Scripted.Deserializer _) w

/-! ## Replays -/

section Listener

variable {S : Type} {c : Cursor S} {s : S} {w : Shared} {m : Mishap}

/-- What goes wrong with a listener is up to the cursor. -/
theorem Rewind.deed?_of_mem_mishaps {r : Rewind} {p : TopicPartition} (h : m ∈ r.mishaps c p s w) :
    m.deed? = none := by
  rw [mishaps] at h
  split at h
  · rw [List.mem_singleton.mp h, Mishap.deed?]
  · split at h
    · cases h
    · obtain ⟨cause, -, rfl⟩ := Mishap.mem_ofAnswer h
      rfl

theorem Listener.deed?_of_mem_mishaps {l : Listener} {ps : List TopicPartition}
    (h : m ∈ l.mishaps c ps s w) : m.deed? = none := by
  cases l with
  | probe commands => cases h
  | rewind r =>
    change m ∈ r.mishapsOfAll c ps s w at h
    induction ps generalizing s w with
    | nil => cases h
    | cons p ps ih =>
      rcases List.mem_append.mp h with h | h
      · exact Rewind.deed?_of_mem_mishaps h
      · exact ih h

end Listener

/-! Cursors are overheard by noting all their calls, and so nothing is left out there either. -/

/-- What goes wrong with a call of a cursor. -/
def CursorCall.mishaps : CursorCall → List Mishap
  | endOffset p answer => Mishap.ofAnswer (.endOffset p) answer
  | seek p offset answer => Mishap.ofAnswer (.seek p offset) answer

namespace Rewind

variable {S : Type} (r : Rewind) (c : Cursor S)

theorem move_noted_mishaps (p : TopicPartition) (s : S) (calls : List CursorCall) (w : Shared) :
    ∃ new, r.move c.noted p (s, calls) w =
        (((), (r.move c p s w).1.2, calls ++ new), (r.move c p s w).2) ∧
      new.flatMap CursorCall.mishaps = r.mishaps c p s w := by
  rcases hend : c.endOffset p s w with ⟨⟨answer, s₁⟩, w₁⟩
  have hnoted : c.noted.endOffset p (s, calls) w =
      ((answer, s₁, calls ++ [.endOffset p answer]), w₁) := Act.noting_of_eq _ hend calls
  rw [mishaps, move, move, Act.bind_of_eq hend, Act.bind_of_eq hnoted, hend]
  cases answer with
  | error cause => exact ⟨[.endOffset p (.error cause)], rfl, rfl⟩
  | ok end_ =>
    dsimp only
    cases r.target end_ with
    | none => exact ⟨[.endOffset p (.ok end_)], rfl, rfl⟩
    | some start =>
      let w₂ := w₁.withNotices (w₁.notices.push (.seeking p end_ start))
      rcases hseek : c.seek p start s₁ w₂ with ⟨⟨moved, s₂⟩, w₃⟩
      have hmoved : Mishap.ofAnswer (.seek p start)
          (c.seek p start s₁ (Shared.tell (.seeking p end_ start) w₁).2).1.1 =
            Mishap.ofAnswer (.seek p start) moved := by
        rw [Shared.tell_eq, hseek]
      have hsought : c.noted.seek p start (s₁, calls ++ [.endOffset p (.ok end_)]) w₂ =
          ((moved, s₂, calls ++ [.endOffset p (.ok end_)] ++ [.seek p start moved]), w₃) :=
        Act.noting_of_eq _ hseek _
      rw [List.append_assoc] at hsought
      dsimp only
      rw [hmoved, Act.bind_of_eq (Act.lift_of_eq (Shared.tell_eq _ w₁)), Act.bind_of_eq hsought,
        Act.bind_of_eq (Act.lift_of_eq (Shared.tell_eq _ w₁)), Act.bind_of_eq hseek]
      refine ⟨[.endOffset p (.ok end_), .seek p start moved], ?_, List.append_nil _⟩
      cases moved <;> rfl

theorem mishapsOfAll_eq_calls (ps : List TopicPartition) (s : S) (w : Shared) :
    r.mishapsOfAll c ps s w = (r.calls c ps s w).flatMap CursorCall.mishaps := by
  have hall (s : S) (calls : List CursorCall) (w : Shared) :
      (ps.forM (r.move c.noted) (s, calls) w).1.2.2.flatMap CursorCall.mishaps =
        calls.flatMap CursorCall.mishaps ++ r.mishapsOfAll c ps s w := by
    induction ps generalizing s calls w with
    | nil => exact (List.append_nil _).symm
    | cons p ps ih =>
      obtain ⟨new, hmove, hnew⟩ := r.move_noted_mishaps c p s calls w
      rw [Act.forM_cons_of_eq hmove, ih, List.flatMap_append, hnew, List.append_assoc]
      rfl
  exact (hall s [] w).symm

end Rewind

theorem LogConsumer.noted_poll {number : BrokerError → Nat} {C : Type} [LogConsumer C]
    [LogConsumer.Audited C] (timeout : Nat) (c : Overheard number C) (w : Shared) :
    w.Noted number ((LogConsumer.poll timeout : Request (Overheard number C) (List Record)) c w).2
      (LogConsumer.mishapsOfPoll timeout c w) := by
  have hheard : w.Noted number w
      ((LogConsumer.Audited.hears timeout c w).flatMap Hearing.mishaps) := by
    refine Shared.noted_of_forall (fun m hm => ?_) w
    obtain ⟨hearing, -, hm⟩ := List.mem_flatMap.mp hm
    exact Listener.deed?_of_mem_mishaps hm
  exact hheard.trans (Overheard.noted_ask (fun _ => rfl) rfl)

end PositionLog
