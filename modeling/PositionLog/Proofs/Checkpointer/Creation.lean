import PositionLog.Proofs.Checkpointer.Steps
import PositionLog.Scripted.Factory

/-!
# How a checkpointer gets its clients

All attempts to create a client are noted, with what came of them.  That they are changes nothing.
A checkpointer that is initialized again and again asks for the clients that it still lacks and for
no others, so it never gets a second one in the place of the first.
-/

namespace PositionLog

/-- An attempt to create a client, and what came of it. -/
inductive Attempt (P C : Type) where
  | consumer (properties : Properties) (answer : Except BrokerError C)
  | producer (properties : Properties) (answer : Except BrokerError P)

/-- Which client was created, if one was. -/
def Attempt.created? {P C : Type} : Attempt P C → Option ClientRole
  | consumer _ (.ok _) => some .consumer
  | producer _ (.ok _) => some .producer
  | _ => none

/-- A factory, and the attempts made with it so far. -/
structure Noting (F P C : Type) where
  factory : F
  attempts : List (Attempt P C) := []

namespace Noting

variable {F P C α : Type}

/-- A request to the factory itself, noted once it is answered. -/
def ask (note : Except BrokerError α → Attempt P C) (x : Request F α) :
    Request (Noting F P C) α :=
  ExceptT.mk fun f => do
    let (answer, factory) ← (x f.factory : StateM Shared _)
    return (answer, ⟨factory, f.attempts ++ [note answer]⟩)

instance [ClientFactory F P C] : ClientFactory (Noting F P C) P C where
  createProducer properties := ask (.producer properties) (ClientFactory.createProducer properties)
  createConsumer properties := ask (.consumer properties) (ClientFactory.createConsumer properties)

theorem ask_of_eq (note : Except BrokerError α → Attempt P C) {x : Request F α} {factory : F}
    (attempts : List (Attempt P C)) {factory' : F} {w w' : Shared} {answer : Except BrokerError α}
    (h : x factory w = ((answer, factory'), w')) :
    ask note x ⟨factory, attempts⟩ w = ((answer, ⟨factory', attempts ++ [note answer]⟩), w') := by
  have hask : ask note x ⟨factory, attempts⟩ w = (((x factory w).1.1,
      ⟨(x factory w).1.2, attempts ++ [note (x factory w).1.1]⟩), (x factory w).2) := rfl
  rw [hask, h]

end Noting

namespace Checkpointer

variable {F P C D : Type}

/-- The same checkpointer, if nothing is noted. -/
def unnoted (s : Checkpointer (Noting F P C) P C D) : Checkpointer F P C D where
  settings := s.settings
  factory := s.factory.factory
  phase := s.phase
  write := s.write
  read := s.read

/-- Whether a checkpointer holds this client. -/
def holds (s : Checkpointer F P C D) : ClientRole → Bool
  | .consumer => s.read.consumer.isSome
  | .producer => s.write.producer.isSome

/-- What is complained about if a client was asked for. -/
def complaint? {α : Type} (role : ClientRole) : Option (Except BrokerError α) → Option Error
  | some (.error cause) => some (.creation role cause)
  | _ => none

/-- What a checkpointer answers if these came of its attempts. -/
def verdict (first : Option (Except BrokerError C)) (second : Option (Except BrokerError P)) :
    Except Error Unit :=
  match first, second with
  | some (.error cause), _ => .error (.creation .consumer cause)
  | _, some (.error cause) => .error (.creation .producer cause)
  | _, _ => .ok ()

theorem verdict_eq (first : Option (Except BrokerError C))
    (second : Option (Except BrokerError P)) :
    verdict first second =
      match (complaint? .consumer first).or (complaint? .producer second) with
      | some e => .error e
      | none => .ok () := by
  rcases first with _ | _ | _ <;> rcases second with _ | _ | _ <;> rfl

theorem finishInit_eq (s : Checkpointer F P C D) :
    finishInit s = { s with
      phase := if s.phase = .uninitialized then .initialized else s.phase } := by
  rw [finishInit]
  split <;> rfl

/-- What a checkpointer holds after an attempt to create it, if there was one. -/
def gained {α : Type} (held : Option α) (answer : Option (Except BrokerError α)) : Option α :=
  held.or (answer.bind Except.toOption)

section Gained

variable {α : Type} {held : Option α} {answer : Option (Except BrokerError α)}

/-- A client that was lacking is asked for, and is there unless it could not be created. -/
theorem isSome_gained_iff (h : answer.isSome = held.isNone) :
    (gained held answer).isSome = true ↔ ∀ cause, answer ≠ some (.error cause) := by
  rcases held with _ | a <;> rcases answer with _ | cause | a'
  case none.some.error => exact iff_of_false nofun fun hne => hne cause rfl
  case none.some.ok => exact iff_of_true rfl nofun
  case some.none => exact iff_of_true rfl nofun
  all_goals cases h

/-- It was created, or was there before. -/
theorem toNat_gained (h : answer.isSome = held.isNone) :
    held.isSome.toNat + (answer.bind Except.toOption).isSome.toNat =
      (gained held answer).isSome.toNat := by
  rcases held with _ | a <;> rcases answer with _ | _ | a' <;> first | rfl | cases h

end Gained

theorem verdict_eq_ok_iff (first : Option (Except BrokerError C))
    (second : Option (Except BrokerError P)) :
    verdict first second = .ok () ↔
      (∀ cause, first ≠ some (.error cause)) ∧ ∀ cause, second ≠ some (.error cause) := by
  rcases first with _ | cause | _
  case some.error => exact iff_of_false nofun fun hne => hne.1 cause rfl
  all_goals
    rcases second with _ | cause | _
    case some.error => exact iff_of_false nofun fun hne => hne.2 cause rfl
    all_goals exact iff_of_true rfl ⟨nofun, nofun⟩

/-- The attempts of one call, the consumer's first, if these came of them. -/
def attempted (settings : Settings) (first : Option (Except BrokerError C))
    (second : Option (Except BrokerError P)) : List (Attempt P C) :=
  (first.map (.consumer settings.consumer)).toList ++
    (second.map (.producer settings.producer)).toList

theorem count_created_attempted (settings : Settings) (first : Option (Except BrokerError C))
    (second : Option (Except BrokerError P)) (role : ClientRole) :
    ((attempted settings first second).filterMap Attempt.created?).count role =
      match role with
      | .consumer => (first.bind Except.toOption).isSome.toNat
      | .producer => (second.bind Except.toOption).isSome.toNat := by
  rcases first with _ | _ | _ <;> rcases second with _ | _ | _ <;> cases role <;> rfl

/-! ## One call -/

section Call

/-- The checkpointer after an attempt to create its consumer, if there was one. -/
def askedConsumer (s : Checkpointer (Noting F P C) P C D) (factory : F)
    (answer : Option (Except BrokerError C)) : Checkpointer (Noting F P C) P C D :=
  { s.setConsumer (gained s.read.consumer answer) with
    factory := ⟨factory,
      s.factory.attempts ++ (answer.map (.consumer s.settings.consumer)).toList⟩ }

/-- The checkpointer after an attempt to create its producer, if there was one. -/
def askedProducer (s : Checkpointer (Noting F P C) P C D) (factory : F)
    (answer : Option (Except BrokerError P)) : Checkpointer (Noting F P C) P C D :=
  { s.setProducer (gained s.write.producer answer) with
    factory := ⟨factory,
      s.factory.attempts ++ (answer.map (.producer s.settings.producer)).toList⟩ }

variable [ClientFactory F P C] (s : Checkpointer (Noting F P C) P C D) (w : Shared)

/-- A consumer is asked for if there is none, and kept if it was created. -/
theorem createConsumer_noted :
    ∃ (answer : Option (Except BrokerError C)) (factory : F) (w' : Shared),
      answer.isSome = s.read.consumer.isNone ∧
      createConsumer s w = ((complaint? .consumer answer, s.askedConsumer factory answer), w') ∧
      createConsumer s.unnoted w =
        ((complaint? .consumer answer, (s.askedConsumer factory answer).unnoted), w') := by
  obtain ⟨settings, ⟨factory, attempts⟩, phase, write, _ | c, subscribed, d⟩ := s
  · rcases hask : (ClientFactory.createConsumer settings.consumer factory :
      StateM Shared (Except BrokerError C × F)) w with ⟨⟨answer, factory'⟩, w'⟩
    have hnoted := Noting.ask_of_eq (.consumer settings.consumer) attempts hask
    cases answer with
    | ok c =>
      exact ⟨some (.ok c), factory', w', rfl, createConsumer_of_ok rfl hnoted,
        createConsumer_of_ok rfl hask⟩
    | error cause =>
      exact ⟨some (.error cause), factory', _, rfl, createConsumer_of_error rfl hnoted,
        createConsumer_of_error rfl hask⟩
  · refine ⟨none, factory, w, rfl, ?_, createConsumer_of_some rfl w⟩
    rw [createConsumer_of_some rfl w]
    simp [askedConsumer, gained, setConsumer, complaint?]

/-- So is a producer. -/
theorem createProducer_noted :
    ∃ (answer : Option (Except BrokerError P)) (factory : F) (w' : Shared),
      answer.isSome = s.write.producer.isNone ∧
      createProducer s w = ((complaint? .producer answer, s.askedProducer factory answer), w') ∧
      createProducer s.unnoted w =
        ((complaint? .producer answer, (s.askedProducer factory answer).unnoted), w') := by
  obtain ⟨settings, ⟨factory, attempts⟩, phase, ⟨x, _ | p, cache⟩, read⟩ := s
  · rcases hask : (ClientFactory.createProducer settings.producer factory :
      StateM Shared (Except BrokerError P × F)) w with ⟨⟨answer, factory'⟩, w'⟩
    have hnoted := Noting.ask_of_eq (.producer settings.producer) attempts hask
    cases answer with
    | ok p =>
      exact ⟨some (.ok p), factory', w', rfl, createProducer_of_ok rfl hnoted,
        createProducer_of_ok rfl hask⟩
    | error cause =>
      exact ⟨some (.error cause), factory', _, rfl, createProducer_of_error rfl hnoted,
        createProducer_of_error rfl hask⟩
  · refine ⟨none, factory, w, rfl, ?_, createProducer_of_some rfl w⟩
    rw [createProducer_of_some rfl w]
    simp [askedProducer, gained, setProducer, complaint?]

/-- A checkpointer `x` was initialized once more and became `y`, and these came of its attempts to
create the consumer and the producer, if it made them. -/
structure Completes (x : Checkpointer (Noting F P C) P C D)
    (first : Option (Except BrokerError C)) (second : Option (Except BrokerError P))
    (y : Checkpointer (Noting F P C) P C D) : Prop where
  settings : y.settings = x.settings
  first_isSome : first.isSome = x.read.consumer.isNone
  second_isSome : second.isSome = x.write.producer.isNone
  attempts : y.factory.attempts = x.factory.attempts ++ attempted x.settings first second
  consumer : y.read.consumer = gained x.read.consumer first
  producer : y.write.producer = gained x.write.producer second
  phase : y.phase =
    if verdict first second = .ok () ∧ x.phase = .uninitialized then .initialized else x.phase

variable {s}

/-- A checkpointer that has not stopped tries to create what it lacks, first the consumer and then
the producer. -/
theorem init_noted (h : s.isStopped = false) :
    ∃ first second y w', init s w = ((verdict first second, y), w') ∧
      init s.unnoted w = ((verdict first second, y.unnoted), w') ∧ Completes s first second y := by
  obtain ⟨first, factory₁, w₁, hlacks, hfirst, hplain₁⟩ :=
    createConsumer_noted s (w.withNotices (w.notices.push (.initializing s.topic)))
  obtain ⟨second, factory₂, w₂, hlacks', hsecond, hplain₂⟩ :=
    createProducer_noted (s.askedConsumer factory₁ first) w₁
  have hinit := init_of_answers h hfirst hsecond
  have hplain := init_of_answers (s := s.unnoted) h hplain₁ hplain₂
  have hverdict := verdict_eq first second
  let s₂ := (s.askedConsumer factory₁ first).askedProducer factory₂ second
  have hcompletes (phase : Phase) (hphase : phase =
      if verdict first second = .ok () ∧ s.phase = .uninitialized then .initialized else s.phase) :
      Completes s first second { s₂ with phase } :=
    ⟨rfl, hlacks, hlacks', List.append_assoc .., rfl, rfl, hphase⟩
  cases hcomplaint : (complaint? .consumer first).or (complaint? .producer second) with
  | some e =>
    rw [hcomplaint] at hinit hplain hverdict
    refine ⟨first, second, s₂, w₂, ?_, ?_, hcompletes s.phase ?_⟩
    · rwa [hverdict]
    · rwa [hverdict]
    · rw [hverdict, if_neg fun hok => nomatch hok.1]
  | none =>
    rw [hcomplaint] at hinit hplain hverdict
    refine ⟨first, second, finishInit s₂, w₂, ?_, ?_, ?_⟩
    · rwa [hverdict]
    · rw [hverdict, finishInit_eq]
      rwa [finishInit_eq] at hplain
    · rw [finishInit_eq]
      apply hcompletes
      rw [hverdict]
      exact ite_congr (propext (and_iff_right rfl)).symm (fun _ => rfl) fun _ => rfl

end Call

section Completes

variable {s x y z : Checkpointer (Noting F P C) P C D} {made made' : List (Attempt P C)}
  {first : Option (Except BrokerError C)} {second : Option (Except BrokerError P)}

/-- All is well exactly if both clients are there. -/
theorem Completes.verdict_eq_ok_iff (h : Completes x first second y) :
    verdict first second = .ok () ↔ y.isInitialized = true := by
  rw [Checkpointer.verdict_eq_ok_iff, ← isSome_gained_iff h.first_isSome,
    ← isSome_gained_iff h.second_isSome, ← h.consumer, ← h.producer, isInitialized,
    Bool.and_eq_true, and_comm]

/-- From `s` to `x` these attempts were made, and no client that was there was given up: each kind
was created once at most, and only if there was none. -/
structure Since (s x : Checkpointer (Noting F P C) P C D) (made : List (Attempt P C)) : Prop where
  settings : x.settings = s.settings
  isStopped : x.isStopped = s.isStopped
  attempts : x.factory.attempts = s.factory.attempts ++ made
  consumer : ∀ c, s.read.consumer = some c → x.read.consumer = some c
  producer : ∀ p, s.write.producer = some p → x.write.producer = some p
  created (role : ClientRole) :
    (s.holds role).toNat + (made.filterMap Attempt.created?).count role = (x.holds role).toNat

theorem Since.refl (s : Checkpointer (Noting F P C) P C D) : Since s s [] :=
  ⟨rfl, rfl, (List.append_nil _).symm, fun _ => id, fun _ => id, fun _ => rfl⟩

theorem Since.trans (h : Since x y made) (h' : Since y z made') : Since x z (made ++ made') where
  settings := h'.settings.trans h.settings
  isStopped := h'.isStopped.trans h.isStopped
  attempts := by rw [h'.attempts, h.attempts, List.append_assoc]
  consumer c := h'.consumer c ∘ h.consumer c
  producer p := h'.producer p ∘ h.producer p
  created role := by
    rw [List.filterMap_append, List.count_append, ← Nat.add_assoc, h.created role, h'.created role]

theorem Since.count_le_one (h : Since s x made) (role : ClientRole) :
    (made.filterMap Attempt.created?).count role ≤ 1 := by
  have hle := (x.holds role).toNat_le
  rw [← h.created role] at hle
  omega

theorem Completes.since (h : Completes x first second y) :
    Since x y (attempted x.settings first second) where
  settings := h.settings
  isStopped := by
    rw [isStopped, isStopped, h.phase]
    split
    · rename_i hnew
      rw [hnew.2]
      rfl
    · rfl
  attempts := h.attempts
  consumer c hc := by rw [h.consumer, gained, hc, Option.some_or]
  producer p hp := by rw [h.producer, gained, hp, Option.some_or]
  created role := by
    rw [count_created_attempted]
    cases role with
    | consumer =>
      rw [holds, holds, h.consumer]
      exact toNat_gained h.first_isSome
    | producer =>
      rw [holds, holds, h.producer]
      exact toNat_gained h.second_isSome

end Completes

/-! ## Many calls -/

section Calls

variable [ClientFactory F P C]

/-- A checkpointer is initialized again and again, and each time something may happen before to
what is shared. -/
def initAgain {F P C D : Type} [ClientFactory F P C] (meanwhile : List (Shared → Shared)) :
    Act (Checkpointer F P C D) Unit :=
  meanwhile.forM fun f => do
    (modify f : StateM Shared Unit)
    let _ ← init.run

theorem initAgain_cons_of_eq {F P C D : Type} [ClientFactory F P C] {s s' : Checkpointer F P C D}
    {f : Shared → Shared} {w w' : Shared} {result : Except Error Unit}
    (h : init s (f w) = ((result, s'), w')) (meanwhile : List (Shared → Shared)) :
    initAgain (f :: meanwhile) s w = initAgain meanwhile s' w' := by
  have hrun : init.run s (f w) = ((result, s'), w') := h
  apply Act.forM_cons_of_eq
  rw [Act.bind_of_eq (Act.lift_of_eq (Shared.modify_apply f w)), Act.bind_of_eq hrun]
  rfl

theorem initAgain_noted {s : Checkpointer (Noting F P C) P C D} (h : s.isStopped = false)
    (meanwhile : List (Shared → Shared)) (w : Shared) :
    ∃ x made w', initAgain meanwhile s w = (((), x), w') ∧
      initAgain meanwhile s.unnoted w = (((), x.unnoted), w') ∧ Since s x made := by
  induction meanwhile generalizing s w with
  | nil => exact ⟨s, [], w, rfl, rfl, .refl s⟩
  | cons f meanwhile ih =>
    obtain ⟨first, second, y, w₁, hinit, hplain, hcompletes⟩ := init_noted (f w) h
    have hsince := hcompletes.since
    obtain ⟨x, made, w', hrest, hrest', hlater⟩ := ih (hsince.isStopped.trans h) w₁
    exact ⟨x, _, w', (initAgain_cons_of_eq hinit meanwhile).trans hrest,
      (initAgain_cons_of_eq hplain meanwhile).trans hrest', hsince.trans hlater⟩

/-- However often a checkpointer was initialized before, one more call asks for the clients that are
still lacking, the consumer before the producer and each with its own properties, and for no others.
What it gets it keeps.  It fails exactly if a client is lacking afterwards, and complains about the
consumer if that was not created, else about the producer; and then it has got no further.  Over
all calls each client was created once at most, and not at all if it was there from the start. -/
theorem initAgain_completes {s : Checkpointer (Noting F P C) P C D} (h : s.isStopped = false)
    (meanwhile : List (Shared → Shared)) (w w' : Shared) :
    ∃ x w₁ first second y w₂ made,
      initAgain meanwhile s w = (((), x), w₁) ∧
      init x w' = ((verdict first second, y), w₂) ∧
      initAgain meanwhile s.unnoted w = (((), x.unnoted), w₁) ∧
      init x.unnoted w' = ((verdict first second, y.unnoted), w₂) ∧
      Completes x first second y ∧
      (verdict first second = .ok () ↔ y.isInitialized = true) ∧
      (verdict first second ≠ .ok () → y.phase = x.phase) ∧
      Since s y made ∧
      ∀ role, (made.filterMap Attempt.created?).count role ≤ 1 := by
  obtain ⟨x, made, w₁, hagain, hagain', hsince⟩ := initAgain_noted h meanwhile w
  obtain ⟨first, second, y, w₂, hinit, hinit', hcompletes⟩ :=
    init_noted w' (hsince.isStopped.trans h)
  have hall := hsince.trans hcompletes.since
  refine ⟨x, w₁, first, second, y, w₂, _, hagain, hinit, hagain', hinit', hcompletes,
    hcompletes.verdict_eq_ok_iff, ?_, hall, hall.count_le_one⟩
  intro hfailed
  rw [hcompletes.phase, if_neg fun hok => hfailed hok.1]

end Calls

/-- The consumer cannot be created at once. -/
def late : Checkpointer (Noting Scripted.Factory Scripted.Producer Scripted.Consumer)
    Scripted.Producer Scripted.Consumer Loader where
  settings := ⟨"t", 1, 1, .batch, {}, {}⟩
  factory := { factory := { party := 0, consumers := [.error .closed] } }
  write := { writer := ⟨"t", 0⟩ }

/-- The producer that was created at first is kept, and the second call asks for the consumer
alone. -/
theorem initAgain_completes_of_late :
    ∃ y w₁ z w₂, init late {} = ((.error (.creation .consumer .closed), y), w₁) ∧
      y.isInitialized = false ∧ y.phase = .uninitialized ∧
      initAgain [id] late {} = (((), y), w₁) ∧ init y w₁ = ((.ok (), z), w₂) ∧
      z.isInitialized = true ∧ z.write.producer = y.write.producer ∧
      z.factory.attempts = y.factory.attempts ++ [.consumer {} (.ok { party := 1 })] := by
  obtain ⟨x, _, first, second, y, w₁, -, hagain, hinit, -, -, -, hok, hphase, -, -⟩ :=
    initAgain_completes (s := late) rfl [] {} {}
  obtain rfl : late = x := congrArg (·.1.2) hagain
  have hfailed : verdict first second = .error (.creation .consumer .closed) :=
    (congrArg (·.1.1) hinit).symm
  rw [hfailed] at hinit hok hphase
  have hagain₁ : initAgain [id] late {} = (((), y), w₁) := initAgain_cons_of_eq hinit []
  obtain ⟨x, _, first, second, z, w₂, -, hagain₂, hinit₂, -, -, -, hok₂, -⟩ :=
    initAgain_completes (s := late) rfl [id] {} w₁
  obtain rfl : y = x := congrArg (·.1.2) (hagain₁.symm.trans hagain₂)
  obtain rfl : (init late {}).1.2 = y := congrArg (·.1.2) hinit
  obtain rfl : (init late {}).2 = w₁ := congrArg (·.2) hinit
  have hdone : verdict first second = .ok () := (congrArg (·.1.1) hinit₂).symm
  rw [hdone] at hinit₂ hok₂
  obtain rfl : (init (init late {}).1.2 (init late {}).2).1.2 = z := congrArg (·.1.2) hinit₂
  have hlacking : (init late {}).1.2.isInitialized = false := by
    apply Bool.eq_false_iff.mpr
    intro hboth
    cases hok.mpr hboth
  exact ⟨_, _, _, w₂, hinit, hlacking, hphase nofun, hagain₁, hinit₂, hok₂.mp rfl, rfl, rfl⟩

end Checkpointer

end PositionLog
