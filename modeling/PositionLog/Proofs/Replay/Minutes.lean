import PositionLog.Proofs.Congruence
import PositionLog.Proofs.Replay.Delivery

/-!
# What a replay shows to its deserializer

A deserializer may answer as it likes, and work on what is shared meanwhile.  It is shown a batch up
to the first record after which it asks to stop.  That minutes are taken of this changes nothing.
-/

namespace PositionLog.Replay

/-- A deserializer, and the minutes of what it was shown and what it answered. -/
structure Minuted (D : Type) where
  deserializer : D
  minutes : List (Entry × Bool) := []

namespace Minuted

variable {D P : Type}

/-- What the deserializer itself works on. -/
def intake (i : Intake (Minuted D) P) : Intake D P := ⟨i.deserializer.deserializer, i.write⟩

def setIntake (j : Intake D P) (i : Intake (Minuted D) P) : Intake (Minuted D) P :=
  ⟨{ i.deserializer with deserializer := j.deserializer }, j.write⟩

def deserialize [LogProducer P] [Deserializer D] (key value : Bytes) :
    Act (Intake (Minuted D) P) Bool := do
  let more ← Act.on intake setIntake (Deserializer.deserialize key value)
  modify fun i => { i with
    deserializer :=
      { i.deserializer with minutes := i.deserializer.minutes ++ [(⟨key, value⟩, more)] } }
  return more

end Minuted

instance {D : Type} [Deserializer D] : Deserializer (Minuted D) where
  deserialize := Minuted.deserialize
  appends d := Deserializer.appends d.deserializer

/-! ## One batch -/

/-- The part of a batch that the deserializer is shown, with its answers: the batch up to the first
record after which it asks to stop, or all of it. -/
structure Shown (batch : List Record) (part : List (Entry × Bool)) : Prop where
  of_batch : part.map Prod.fst <+: batch.map Record.toEntry
  wanted : ∀ x ∈ part.dropLast, x.2 = true
  whole : (∀ x ∈ part, x.2 = true) → part.map Prod.fst = batch.map Record.toEntry

theorem Shown.nil : Shown [] [] := ⟨List.prefix_rfl, nofun, fun _ => rfl⟩

theorem Shown.stopped (r : Record) (batch : List Record) :
    Shown (r :: batch) [(r.toEntry, false)] :=
  ⟨List.cons_prefix_cons.mpr ⟨rfl, List.nil_prefix⟩, nofun,
    fun h => absurd (h _ (List.mem_singleton_self _)) Bool.false_ne_true⟩

theorem Shown.cons {batch : List Record} {part : List (Entry × Bool)} (h : Shown batch part)
    (r : Record) : Shown (r :: batch) ((r.toEntry, true) :: part) where
  of_batch := List.cons_prefix_cons.mpr ⟨rfl, h.of_batch⟩
  wanted x hx := by
    cases part with
    | nil => cases hx
    | cons y part =>
      rcases List.mem_cons.mp hx with rfl | hx
      · rfl
      · exact h.wanted x hx
  whole hall := congrArg (r.toEntry :: ·) (h.whole fun x hx => hall x (List.mem_cons_of_mem _ hx))

section Feed

variable {C D P : Type} [LogProducer P] [Deserializer D]

theorem take_minuted (key value : Bytes) (s : Playback C (Minuted D) P) (w : Shared) :
    ∃ more i w', Playback.take key value s w = ((more, { s with toIntake := i }), w') ∧
      i.deserializer.minutes = s.deserializer.minutes ++ [(⟨key, value⟩, more)] := by
  rcases hdes : Deserializer.deserialize key value (Minuted.intake s.toIntake) w with
    ⟨⟨more, j⟩, w'⟩
  have hmin : Minuted.deserialize key value s.toIntake w = _ :=
    Act.bind_of_eq (Act.on_of_eq hdes)
  exact ⟨more, _, w', Act.on_of_eq hmin, rfl⟩

/-- A batch is handed over until there is a stop. -/
theorem feed_minuted (batch : List Record) (records : Nat) (s : Playback C (Minuted D) P)
    (w : Shared) :
    ∃ part i w', feed Playback.take records batch s w =
        (((records + part.length, part.any (!·.2)), { s with toIntake := i }), w') ∧
      Shown batch part ∧ i.deserializer.minutes = s.deserializer.minutes ++ part := by
  induction batch generalizing records s w with
  | nil => exact ⟨[], s.toIntake, w, rfl, .nil, (List.append_nil _).symm⟩
  | cons r batch ih =>
    obtain ⟨more, i₁, w₁, htake, hminutes⟩ := take_minuted r.key r.value s
      (w.withNotices (w.notices.push (.read r.partition r.offset)))
    have hfeed : feed Playback.take records (r :: batch) s w =
        (if more then feed Playback.take (records + 1) batch else pure (records + 1, true) :
          Act _ _) { s with toIntake := i₁ } w₁ :=
      (Act.bind_of_eq (Act.lift_of_eq (Shared.tell_eq _ w))).trans (Act.bind_of_eq htake)
    cases more with
    | false => exact ⟨[(r.toEntry, false)], i₁, w₁, hfeed, .stopped r batch, hminutes⟩
    | true =>
      obtain ⟨part, i₂, w₂, hrest, hshown, hmore⟩ :=
        ih (records + 1) { s with toIntake := i₁ } w₁
      refine ⟨(r.toEntry, true) :: part, i₂, w₂, hfeed.trans (hrest.trans ?_), hshown.cons r, ?_⟩
      · rw [List.length_cons, Nat.add_assoc, Nat.add_comm 1]
        rfl
      · rw [hmore, hminutes, List.append_assoc]
        rfl

end Feed

/-! ## Without the minutes -/

section Unminuted

/-- The one step is the other, with less to be seen of the state. -/
def Abstracts {S T α : Type} (f : S → T) (x : Act S α) (y : Act T α) : Prop :=
  ∀ s w, y (f s) w = (((x s w).1.1, f (x s w).1.2), (x s w).2)

theorem congruence_abstracts {S T : Type} (f : S → T) : Act.Congruence (Abstracts f) where
  pure _ _ _ := rfl
  bind hx hg s w := by
    rw [Act.bind_apply, Act.bind_apply, hx s w]
    exact hg _ _ _
  tell _ _ _ := rfl

variable {C D P : Type}

/-- The same, without the minutes. -/
def Playback.plain (s : Playback C (Minuted D) P) : Playback C D P :=
  { Minuted.intake s.toIntake with consumer := s.consumer }

theorem abstracts_poll [LogConsumer C] (timeout : Nat) :
    Abstracts (Playback.plain : Playback C (Minuted D) P → Playback C D P)
      (Playback.poll timeout).run (Playback.poll timeout).run := fun _ _ => rfl

variable [LogProducer P] [Deserializer D]

theorem abstracts_take (key value : Bytes) :
    Abstracts (Playback.plain : Playback C (Minuted D) P → Playback C D P)
      (Playback.take key value) (Playback.take key value) := fun _ _ => rfl

/-- The minutes change nothing. -/
theorem abstracts_run [LogConsumer C] (timeout retries : Nat) (halt : HaltScope) :
    Abstracts (Playback.plain : Playback C (Minuted D) P → Playback C D P)
      (Playback.run timeout retries halt).run (Playback.run timeout retries halt).run := by
  intro s w
  rw [Try.run_apply, Try.run_apply, Playback.run_apply, Playback.run_apply]
  exact ((congruence_abstracts _).run _).drain (abstracts_poll timeout) abstracts_take retries halt
    (s.rounds w) {} s w

end Unminuted

end PositionLog.Replay
