import PositionLog.Proofs.Checkpointer.Steps
import PositionLog.Proofs.Congruence
import PositionLog.Writer

/-!
# What goes wrong with clients

Nothing that goes wrong with a client is passed over in silence.  It is either passed on to whoever
asked for what was done, or told by a notice that asks for attention; and no such notice is given
for anything else.  So the alarms can be read off a list of what went wrong.
-/

namespace PositionLog

/-- The alarms among all notices. -/
def Shared.alarms (w : Shared) : List Notice := w.notices.toList.filter Notice.isAlarm

/-- Something that goes wrong with a client, by what the client was to do. -/
inductive Mishap where
  /-- To deliver a record that a writer has sent. -/
  | delivery (cause : BrokerError)
  | send (topic : String) (cause : BrokerError)
  | create (role : ClientRole) (cause : BrokerError)
  | subscribe (cause : BrokerError)
  | unsubscribe (topic : String) (cause : BrokerError)
  | poll (cause : BrokerError)
  | close (role : ClientRole) (cause : BrokerError)
  | endOffset (p : TopicPartition) (cause : BrokerError)
  | seek (p : TopicPartition) (target : Int) (cause : BrokerError)
deriving DecidableEq, Repr

namespace Mishap

def cause : Mishap → BrokerError
  | delivery cause | send _ cause | create _ cause | subscribe cause | unsubscribe _ cause
  | poll cause | close _ cause | endOffset _ cause | seek _ _ cause => cause

/-- The alarm that is given.  Of a closed producer that is to send, and of a consumer that cannot
subscribe or be polled, nothing is told. -/
def alarm? : Mishap → Option Notice
  | delivery cause => some (.deliveryFailed cause)
  | send _ .closed => none
  | send topic cause => some (.sendRefused topic cause)
  | create role cause => some (.creationFailed role cause)
  | subscribe _ => none
  | unsubscribe topic .closed => some (.unsubscribeSkipped topic)
  | unsubscribe topic cause => some (.unsubscribeFailed topic cause)
  | poll _ => none
  | close role cause => some (.closeFailed role cause)
  | endOffset p cause => some (.endUnknown p cause)
  | seek p target cause => some (.seekFailed p target cause)

/-- What goes wrong when a client gives this answer. -/
def ofAnswer {α : Type} (mishap : BrokerError → Mishap) : Except BrokerError α → List Mishap
  | .ok _ => []
  | .error cause => [mishap cause]

theorem mem_ofAnswer {α : Type} {mishap : BrokerError → Mishap} {answer : Except BrokerError α}
    {m : Mishap} (hm : m ∈ ofAnswer mishap answer) :
    ∃ cause, answer = .error cause ∧ m = mishap cause := by
  cases answer with
  | ok a => cases hm
  | error cause => exact ⟨cause, rfl, List.mem_singleton.mp hm⟩

end Mishap

/-- Something that goes wrong, and what was answered to whoever asked for what was done then. -/
structure Incident where
  mishap : Mishap
  answer : Except Error Unit

namespace Incident

/-- Whoever asked is told, if nobody else is. -/
def Settled (i : Incident) : Prop :=
  i.mishap.alarm? = none → i.answer = .error (.broker i.mishap.cause)

/-- All of this goes wrong while one thing is done. -/
def answered (answer : Except Error Unit) (ms : List Mishap) : List Incident := ms.map (⟨·, answer⟩)

@[simp] theorem map_mishap_answered (answer : Except Error Unit) (ms : List Mishap) :
    (answered answer ms).map mishap = ms := by
  rw [answered, List.map_map]
  exact List.map_id ms

@[simp] theorem answered_append (answer : Except Error Unit) (ms ms' : List Mishap) :
    answered answer (ms ++ ms') = answered answer ms ++ answered answer ms' := List.map_append

end Incident

/-! ## Alarms and their causes -/

namespace Shared

variable {w w' w'' : Shared}

/-- All alarms given in between were about these mishaps, in order. -/
def Accounted (w w' : Shared) (ms : List Mishap) : Prop :=
  w'.alarms = w.alarms ++ ms.filterMap Mishap.alarm?

theorem Accounted.of_eq (h : w'.alarms = w.alarms) : Accounted w w' [] :=
  h.trans (List.append_nil _).symm

theorem Accounted.trans {ms ms' : List Mishap} (h : Accounted w w' ms)
    (h' : Accounted w' w'' ms') : Accounted w w'' (ms ++ ms') := by
  rw [Accounted, h', h, List.append_assoc, List.filterMap_append]

/-- The incidents account for all alarms given in between.  Of what no alarm was given about,
whoever asked was told. -/
structure Explained (w w' : Shared) (is : List Incident) : Prop where
  accounted : Accounted w w' (is.map Incident.mishap)
  settled : ∀ i ∈ is, i.Settled

theorem Explained.of_eq (h : w'.alarms = w.alarms) : Explained w w' [] :=
  ⟨.of_eq h, List.forall_mem_nil _⟩

theorem Explained.refl (w : Shared) : Explained w w [] := .of_eq rfl

theorem Explained.trans {is is' : List Incident} (h : Explained w w' is)
    (h' : Explained w' w'' is') : Explained w w'' (is ++ is') where
  accounted := by
    rw [List.map_append]
    exact h.accounted.trans h'.accounted
  settled := List.forall_mem_append.mpr ⟨h.settled, h'.settled⟩

/-- Alarms were given about these mishaps, and about nothing else.  Whoever asked may have been
answered anything. -/
def Told (w w' : Shared) (ms : List Mishap) : Prop :=
  ∀ answer, Explained w w' (Incident.answered answer ms)

theorem Told.of_eq (h : w'.alarms = w.alarms) : Told w w' [] := fun _ => .of_eq h

theorem Told.refl (w : Shared) : Told w w [] := .of_eq rfl

theorem Told.trans {ms ms' : List Mishap} (h : Told w w' ms) (h' : Told w' w'' ms') :
    Told w w'' (ms ++ ms') := by
  intro answer
  rw [Incident.answered_append]
  exact (h answer).trans (h' answer)

theorem Told.accounted {ms : List Mishap} (h : Told w w' ms) : Accounted w w' ms := by
  have hexplained := (h (.ok ())).accounted
  rwa [Incident.map_mishap_answered] at hexplained

theorem Told.alarm?_ne_none {ms : List Mishap} (h : Told w w' ms) {m : Mishap} (hm : m ∈ ms) :
    m.alarm? ≠ none := by
  intro hnone
  have hsettled := (h (.ok ())).settled ⟨m, .ok ()⟩ (List.mem_map_of_mem hm) hnone
  cases hsettled

/-- What goes well is answered without telling of any mishap. -/
theorem Explained.told {ms : List Mishap}
    (h : Explained w w' (Incident.answered (.ok ()) ms)) : Told w w' ms := by
  intro answer
  constructor
  · have haccounted := h.accounted
    rwa [Incident.map_mishap_answered] at haccounted ⊢
  · intro i hi hnone
    obtain ⟨m, hm, rfl⟩ := List.mem_map.mp hi
    exact absurd (h.settled ⟨m, .ok ()⟩ (List.mem_map_of_mem hm) hnone) nofun

theorem alarms_tell (n : Notice) (w : Shared) :
    (tell n w).2.alarms = w.alarms ++ if n.isAlarm then [n] else [] := by
  simp [alarms, List.filter_cons]

theorem alarms_tell_of_quiet {n : Notice} (h : n.isAlarm = false) (w : Shared) :
    (tell n w).2.alarms = w.alarms := by
  rw [alarms_tell, h]
  exact List.append_nil _

/-- A notice that is no alarm. -/
theorem told_quiet {n : Notice} (h : n.isAlarm = false) (w : Shared) : Told w (tell n w).2 [] :=
  .of_eq (alarms_tell_of_quiet h w)

/-- The alarm about a mishap. -/
theorem told_alarm {m : Mishap} {n : Notice} (h : m.alarm? = some n) (w : Shared) :
    Told w (tell n w).2 [m] := by
  have halarm : n.isAlarm = true := by
    unfold Mishap.alarm? at h
    split at h <;> cases h <;> rfl
  intro answer
  constructor
  · rw [Accounted, Incident.map_mishap_answered, alarms_tell, halarm, List.filterMap_cons_some h]
    rfl
  · intro i hi hnone
    rw [List.mem_singleton.mp hi, h] at hnone
    cases hnone

/-- The alarm about what goes wrong, if anything does. -/
theorem told_complained {mishap : BrokerError → Mishap} {complaint : BrokerError → Notice}
    (h : ∀ cause, (mishap cause).alarm? = some (complaint cause)) (w : Shared)
    (result : Except BrokerError Unit) :
    Told w (w.complained complaint result) (Mishap.ofAnswer mishap result) := by
  cases result with
  | ok _ => exact .refl w
  | error cause => exact told_alarm (h cause) w

end Shared

/-- A step during which no alarm is given. -/
def Act.Quiet {S α : Type} (x : Act S α) : Prop :=
  ∀ (s : S) (w : Shared), (x s w).2.alarms = w.alarms

/-! ## Ledgers -/

/-- What goes wrong during a step of something with states `S`. -/
abbrev Ledger (S : Type) := S → Shared → List Incident

/-- What is listed accounts for what becomes of what is shared as `R` says.  It adds up, and nothing
is listed where nothing goes wrong. -/
structure Shared.AddsUp (R : Shared → Shared → List Incident → Prop) : Prop where
  refl : ∀ w, R w w []
  trans : ∀ {w w' w'' is is'}, R w w' is → R w' w'' is' → R w w'' (is ++ is')
  tell : ∀ {n : Notice}, n.isAlarm = false → ∀ w, R w (tell n w).2 []

theorem Shared.addsUp_explained : AddsUp Explained where
  refl := .refl
  trans h h' := h.trans h'
  tell h w := told_quiet h w (.ok ())

/-- The ledger accounts for what becomes of what is shared during the step. -/
def Act.Accounts {S α : Type} (R : Shared → Shared → List Incident → Prop) (x : Act S α)
    (l : Ledger S) : Prop :=
  ∀ (s : S) (w : Shared), R w (x s w).2 (l s w)

/-- The ledger explains all alarms that are given during the step. -/
abbrev Act.Explained {S α : Type} (x : Act S α) (l : Ledger S) : Prop :=
  x.Accounts Shared.Explained l

theorem Act.Quiet.explained {S α : Type} {x : Act S α} (h : x.Quiet) : x.Explained fun _ _ => [] :=
  fun s w => .of_eq (h s w)

namespace Ledger

variable {S : Type}

/-- The ledger of a step on something that may be missing. -/
def onSome (l : Ledger S) : Ledger (Option S)
  | none, _ => []
  | some s, w => l s w

/-- The ledger of a step of one of several. -/
def member (who : Nat) (l : Ledger S) : Ledger (List S) := fun ss => l.onSome ss[who]?

/-! A ledger without entries stays so. -/

theorem onSome_nil : onSome (fun (_ : S) _ => []) = fun _ _ => [] := by
  funext s w
  cases s <;> rfl

theorem member_nil (who : Nat) : member who (fun (_ : S) _ => []) = fun _ _ => [] := by
  funext ss
  rw [member, onSome_nil]

end Ledger

section Accounts

variable {R : Shared → Shared → List Incident → Prop} {S T α : Type} {x : Act S α} {l : Ledger S}

theorem Act.Accounts.on (h : x.Accounts R l) (part : T → S) (put : S → T → T) :
    (x.on part put).Accounts R fun t => l (part t) :=
  fun t w => h (part t) w

theorem Shared.AddsUp.onSome (hR : AddsUp R) (h : x.Accounts R l) :
    x.onSome.Accounts R l.onSome
  | none, w => hR.refl w
  | some s, w => h s w

theorem Shared.AddsUp.member (hR : AddsUp R) (h : x.Accounts R l) (who : Nat) :
    (x.member who).Accounts R (l.member who) := by
  intro ss w
  rw [Ledger.member]
  cases hs : ss[who]? with
  | none =>
    rw [Act.member_of_none hs]
    exact hR.refl w
  | some s =>
    rw [Act.member_of_some hs rfl]
    exact h s w

end Accounts

/-! ## Notes

What goes wrong during a step is noted beside it.  A loop is then the same loop over steps beside
which notes are taken.
-/

section Notes

variable {S α : Type}

/-- Does the step, and notes what goes wrong meanwhile. -/
def Act.watch (x : Act S α) (l : Ledger S) : Act (S × List Incident) α :=
  fun (s, noted) w => (((x s w).1.1, ((x s w).1.2, noted ++ l s w)), (x s w).2)

/-- All that is noted during a step. -/
def Act.noted (y : Act (S × List Incident) α) : Ledger S := fun s w => (y (s, []) w).1.2.2

/-- The second step is the first one, and takes notes of which `R` tells what they account for. -/
def Act.Notes (R : Shared → Shared → List Incident → Prop) (x : Act S α)
    (y : Act (S × List Incident) α) : Prop :=
  ∀ s noted w, ∃ met,
    y (s, noted) w = (((x s w).1.1, ((x s w).1.2, noted ++ met)), (x s w).2) ∧
    R w (x s w).2 met

/-- So it is with requests.  Nobody is told yet of the mishap that a request fails for: it will be
answered to whoever asked. -/
def Try.Notes (answer : Except Error Unit) (x : Request S α) (y : Request (S × List Incident) α) :
    Prop :=
  ∀ s noted w, ∃ met,
    y (s, noted) w = (((x s w).1.1, ((x s w).1.2, noted ++ met)), (x s w).2) ∧
    w.Accounted (x s w).2 (met.map Incident.mishap) ∧
    ∀ i ∈ met, i.Settled ∨ ∃ cause, (x s w).1.1 = .error cause ∧ i = ⟨.poll cause, answer⟩

theorem Act.congruence_notes {R : Shared → Shared → List Incident → Prop}
    (hR : Shared.AddsUp R) : Act.Congruence (S := S) fun x y => Act.Notes R x y where
  pure _ := fun _ _ w => ⟨[], by rw [List.append_nil]; rfl, hR.refl w⟩
  bind {_ _ x _ _ _} hx hg := fun s noted w => by
    obtain ⟨met, hy, hmet⟩ := hx s noted w
    obtain ⟨met', hh, hmet'⟩ := hg (x s w).1.1 (x s w).1.2 (noted ++ met) (x s w).2
    refine ⟨met ++ met', ?_, hR.trans hmet hmet'⟩
    rw [Act.bind_of_eq hy, hh, List.append_assoc]
    rfl
  tell h := fun _ _ w => ⟨[], by rw [List.append_nil]; rfl, hR.tell h w⟩

theorem Try.congruence_notes (answer : Except Error Unit) :
    Try.Congruence (S := S) BrokerError (fun x y => Act.Notes Shared.Explained x y)
      (fun x y => Try.Notes answer x y) where
  toCongruence := Act.congruence_notes Shared.addsUp_explained
  try_pure _ := fun _ _ _ =>
    ⟨[], by rw [List.append_nil]; rfl, .of_eq rfl, List.forall_mem_nil _⟩
  try_bind {_ _ x y g h} hx hg := fun s noted w => by
    obtain ⟨met, hy, hacc, hsettled⟩ := hx s noted w
    rcases hstep : x s w with ⟨⟨e | a, s₁⟩, w₁⟩
    · rw [hstep] at hy hacc hsettled
      have hfirst : (x >>= g) s w = ((.error e, s₁), w₁) := by
        rw [Try.bind_apply, hstep]
      have hwatched : (y >>= h) (s, noted) w = ((.error e, (s₁, noted ++ met)), w₁) := by
        rw [Try.bind_apply, hy]
      rw [hfirst]
      refine ⟨met, hwatched, hacc, fun i hi => (hsettled i hi).imp_right ?_⟩
      rintro ⟨_, ⟨⟩, hfatal⟩
      exact ⟨e, rfl, hfatal⟩
    · rw [hstep] at hy hacc hsettled
      obtain ⟨met', hh, hacc', hsettled'⟩ := hg a s₁ (noted ++ met) w₁
      rw [Try.bind_of_ok hstep]
      refine ⟨met ++ met', ?_, ?_, ?_⟩
      · rw [Try.bind_of_ok hy, hh, List.append_assoc]
      · rw [List.map_append]
        exact hacc.trans hacc'
      · refine List.forall_mem_append.mpr ⟨fun i hi => ?_, hsettled'⟩
        rcases hsettled i hi with hi | ⟨e, he, -⟩
        · exact .inl hi
        · cases he
  try_lift {_ x _} h := fun s noted w => by
    obtain ⟨met, hy, hmet⟩ := h s noted w
    exact ⟨met, Try.liftAct_of_eq hy, hmet.accounted, fun i hi => .inl (hmet.settled i hi)⟩

theorem Act.Notes.noted {R : Shared → Shared → List Incident → Prop} {x : Act S α}
    {y : Act (S × List Incident) α} (h : Act.Notes R x y) (s : S) (w : Shared) :
    R w (x s w).2 (Act.noted y s w) := by
  obtain ⟨met, hy, hmet⟩ := h s [] w
  rw [Act.noted, hy]
  exact hmet

theorem Try.Notes.noted {answer : Except Error Unit} {x : Request S α}
    {y : Request (S × List Incident) α} (h : Try.Notes answer x y) (s : S) (w : Shared) :
    w.Accounted (x s w).2 ((Act.noted y.run s w).map Incident.mishap) ∧
      ∀ i ∈ Act.noted y.run s w,
        i.Settled ∨ ∃ cause, (x s w).1.1 = .error cause ∧ i = ⟨.poll cause, answer⟩ := by
  obtain ⟨met, hy, hall⟩ := h s [] w
  rw [Act.noted, Try.run_apply, hy]
  exact hall

end Notes

/-! ## Writers -/

/-- A producer during whose steps no alarm is given. -/
class LogProducer.Quiet (P : Type) [LogProducer P] : Prop where
  send (topic : String) (key value : Bytes) (t : Ticket) :
    (LogProducer.send topic key value t : Request P Receipt).run.Quiet
  close : (LogProducer.close : Request P Unit).run.Quiet

/-- What a report tells to whoever waits for it. -/
def Ticket.mishaps : Ticket → Report → List Mishap
  | .writer .., .error failure => [.delivery failure.error]
  | .writer .., .ok _ | .watcher, _ => []

/-- What is told of the records that a producer still holds when it is dropped. -/
def LogProducer.mishapsOfDrop {P : Type} [LogProducer P] (producer : P) : List Mishap :=
  (abandoned producer).flatMap fun (t, report) => t.mishaps report

theorem Shared.told_settle (t : Ticket) (report : Report) (w : Shared) :
    w.Told (settle t report w).2 (t.mishaps report) := by
  cases t with
  | watcher => exact .of_eq rfl
  | writer losses key =>
    cases report with
    | ok place => exact .of_eq rfl
    | error failure =>
      have htold : w.Told (tell (.deliveryFailed failure.error) w).2
        [.delivery failure.error] := told_alarm rfl w
      exact htold.trans (.of_eq rfl)

theorem LogProducer.told_drop {P : Type} [LogProducer P] (producer : P) (w : Shared) :
    w.Told (drop producer w).2 (mishapsOfDrop producer) := by
  rw [drop, mishapsOfDrop]
  induction abandoned producer generalizing w with
  | nil => exact .refl w
  | cons x xs ih => exact (Shared.told_settle x.1 x.2 w).trans (ih _)

section Writer

variable {P : Type} [LogProducer P]

/-- What goes wrong with a record that a writer sends. -/
def Writer.mishaps (x : Writer) (key value : Bytes) (producer : P) (w : Shared) : List Mishap :=
  match ((LogProducer.send x.topic key value (.writer x.losses key) : Request P Receipt)
    producer w).1.1 with
  | .ok (.settled report) => Ticket.mishaps (.writer x.losses key) report
  | .ok .outstanding => []
  | .error cause => [.send x.topic cause]

/-- What goes wrong with a position that is published. -/
def WritePath.mishaps (s : WritePath P) (p : Position) (w : Shared) : List Mishap :=
  match s.producer with
  | none => []
  | some producer => s.writer.mishaps p.key p.value producer
    (Shared.tell (.updating s.writer.topic p.key.length p.value.length) w).2

/-- The ledger of a writer that sends a record. -/
def Writer.incidents (x : Writer) (key value : Bytes) : Ledger P := fun producer w =>
  Incident.answered (((x.append key value : Request P Unit) producer w).1.1.mapError .broker)
    (x.mishaps key value producer w)

/-- The ledger of a write path that a position is published on. -/
def WritePath.incidents (p : Position) : Ledger (WritePath P) := fun s w =>
  Incident.answered (publish p s w).1.1 (s.mishaps p w)

variable [LogProducer.Quiet P]

/-- A writer tells what goes wrong, unless it is that the producer is closed. -/
theorem Writer.explained_append (x : Writer) (key value : Bytes) :
    (x.append key value : Request P Unit).run.Explained (x.incidents key value) := by
  intro producer w
  have hquiet := LogProducer.Quiet.send x.topic key value (.writer x.losses key) producer w
  rcases hsend : (LogProducer.send x.topic key value (.writer x.losses key) : Request P Receipt)
    producer w with ⟨⟨answer, producer'⟩, w₁⟩
  rw [Try.run_apply, hsend] at hquiet
  have hsent : w.Told w₁ [] := .of_eq hquiet
  rw [Try.run_apply, incidents, mishaps, hsend, append_of_answer hsend]
  have hrefused (cause : BrokerError)
      (h : (Mishap.send x.topic cause).alarm? = some (.sendRefused x.topic cause)) :
      w.Told (Shared.lose x.losses ⟨key, none, cause⟩
        (Shared.tell (.sendRefused x.topic cause) w₁).2).2 [.send x.topic cause] :=
    (hsent.trans (Shared.told_alarm h w₁)).trans (.of_eq rfl)
  match answer with
  | .ok .outstanding => exact hsent (.ok ())
  | .ok (.settled report) => exact hsent.trans (Shared.told_settle _ report w₁) (.ok ())
  | .error .closed => exact ⟨hsent.accounted, List.forall_mem_singleton.mpr fun _ => rfl⟩
  | .error (.unavailable _) | .error (.invalidState _) | .error (.kafka _) =>
    exact hrefused _ rfl (.ok ())

/-- So does a write path. -/
theorem WritePath.explained_publish (p : Position) :
    (publish p : Operation (WritePath P) Unit).run.Explained (incidents p) := by
  rintro ⟨x, _ | producer, cache⟩ w
  · exact .refl w
  · let w₁ := (Shared.tell (.updating x.topic p.key.length p.value.length) w).2
    have htold : w.Explained w₁ [] := Shared.told_quiet rfl w (.ok ())
    have hexplained := x.explained_append p.key p.value producer w₁
    rcases happend : (x.append p.key p.value : Request P Unit) producer w₁ with
      ⟨⟨result, producer'⟩, w₂⟩
    rw [Try.run_apply, Writer.incidents, happend] at hexplained
    have hmirror : w₂.Explained ((⟨x, some producer, cache⟩ : WritePath P).mirror p w₂).2 [] := by
      cases cache <;> exact .of_eq rfl
    have hall := (htold.trans hexplained).trans hmirror
    rw [List.append_nil, List.nil_append] at hall
    rw [Try.run_apply, incidents, publish_of_answer (s := ⟨x, some producer, cache⟩) rfl happend]
    exact hall

end Writer

end PositionLog
