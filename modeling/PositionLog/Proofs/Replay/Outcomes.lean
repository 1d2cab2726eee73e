import PositionLog.Proofs.Replay.Minutes
import PositionLog.Scripted.Consumer
import PositionLog.Scripted.Deserializer

/-!
# When a replay ends

A consumer is given by what its polls come to, one after the other, and the deserializer by what it
answers.  The proof follows the rounds of a replay.  Between two rounds the last poll, if there was
one, has found records, no poll has failed, and no reason to end has shown up (`Going`); so the
polls of the next round are all that can end the replay, and the count of retries starts anew.
-/

namespace PositionLog.Replay

/-- What a poll comes to. -/
abbrev Outcome := Except BrokerError (List Record)

/-- What the first so many polls come to. -/
def heard (o : Nat → Outcome) (k : Nat) : List Outcome := (List.range k).map o

/-- The batches that hold something. -/
def batches (os : List Outcome) : List (List Record) :=
  os.filterMap fun
    | .ok (r :: rs) => some (r :: rs)
    | _ => none

/-- The polls of a consumer come to `o`, whatever else goes on, and take it from one of the states
`cs` to the next. -/
def Yields {C : Type} [LogConsumer C] (o : Nat → Outcome) (cs : Nat → C) : Prop :=
  ∀ timeout i w, ∃ w', LogConsumer.poll timeout (cs i) w = ((o i, cs (i + 1)), w')

/-! ## The end of a replay -/

/-- Why a replay is over once the polls have come to `os`, if the batches among them were shown in
these parts. -/
inductive Ended (retries : Nat) (halt : HaltScope) (os : List Outcome)
    (parts : List (List (Entry × Bool))) : Prop where
  | failed (cause : BrokerError) (h : os.getLast? = some (.error cause))
  | exhausted (h : List.replicate retries (.ok []) <:+ os)
  | stopped (hhalt : halt = .replay)
      (h : ∃ x ∈ (parts.take (batches os).length).flatten, x.2 = false)

/-- What a replay makes of these batches, shown in these parts. -/
def tally (os : List Outcome) (parts : List (List (Entry × Bool))) : Summary :=
  ⟨(batches os).length, parts.flatten.length, parts.flatten.any (!·.2)⟩

/-- How a replay ends: by the failure of its last poll, or well. -/
def verdict (os : List Outcome) (parts : List (List (Entry × Bool))) :
    Except BrokerError Summary :=
  match os.getLast? with
  | some (.error cause) => .error cause
  | _ => .ok (tally os parts)

section Heard

variable {o : Nat → Outcome}

theorem heard_succ (o : Nat → Outcome) (k : Nat) : heard o (k + 1) = heard o k ++ [o k] := by
  rw [heard, List.range_succ, List.map_append]
  rfl

theorem getLast?_heard_succ (o : Nat → Outcome) (k : Nat) :
    (heard o (k + 1)).getLast? = some (o k) := by
  rw [heard_succ, List.getLast?_concat]

theorem batches_append (os os' : List Outcome) : batches (os ++ os') = batches os ++ batches os' :=
  List.filterMap_append

theorem batches_heard_succ_of_nil {k : Nat} (h : o k = .ok []) :
    batches (heard o (k + 1)) = batches (heard o k) := by
  rw [heard_succ, batches_append, h]
  exact List.append_nil _

theorem batches_heard_succ {k : Nat} {batch : List Record} (h : o k = .ok batch)
    (hne : batch ≠ []) : batches (heard o (k + 1)) = batches (heard o k) ++ [batch] := by
  obtain ⟨r, batch, rfl⟩ := List.exists_cons_of_ne_nil hne
  rw [heard_succ, batches_append, h]
  rfl

theorem length_batches_heard_mono (o : Nat → Outcome) {j k : Nat} (h : j ≤ k) :
    (batches (heard o j)).length ≤ (batches (heard o k)).length := by
  induction h with
  | refl => exact Nat.le_refl _
  | step _ ih =>
    rw [Nat.succ_eq_add_one, heard_succ, batches_append, List.length_append]
    exact Nat.le_add_right_of_le ih

/-- Polls that find nothing. -/
theorem heard_add_of_nil {j m : Nat} (h : ∀ i < m, o (j + i) = .ok []) :
    heard o (j + m) = heard o j ++ List.replicate m (.ok []) := by
  induction m with
  | zero => exact (List.append_nil _).symm
  | succ m ih =>
    rw [← Nat.add_assoc, heard_succ, ih fun i hi => h i (Nat.lt_succ_of_lt hi), h m m.lt_succ_self,
      List.append_assoc, List.replicate_succ']

theorem batches_heard_add_of_nil {j m : Nat} (h : ∀ i < m, o (j + i) = .ok []) :
    batches (heard o (j + m)) = batches (heard o j) := by
  induction m with
  | zero => rfl
  | succ m ih =>
    rw [← Nat.add_assoc, batches_heard_succ_of_nil (h m m.lt_succ_self),
      ih fun i hi => h i (Nat.lt_succ_of_lt hi)]

/-- After something else, so many of the same do not come from fewer. -/
theorem not_replicate_suffix {α : Type} {a : α} {l : List α} (hl : l.getLast? ≠ some a) {m n : Nat}
    (h : m < n) : ¬ List.replicate n a <:+ l ++ List.replicate m a := by
  induction m generalizing n with
  | zero =>
    rintro ⟨t, ht⟩
    obtain ⟨n, rfl⟩ := Nat.exists_eq_add_of_lt h
    rw [Nat.zero_add, List.replicate_succ', ← List.append_assoc, List.replicate_zero,
      List.append_nil] at ht
    rw [← ht, List.getLast?_concat] at hl
    exact hl rfl
  | succ m ih =>
    obtain ⟨n, rfl⟩ := Nat.exists_eq_add_of_lt h
    rintro ⟨t, ht⟩
    rw [List.replicate_succ', List.replicate_succ', ← List.append_assoc, ← List.append_assoc] at ht
    exact ih (n := m + 1 + n) (by omega) ⟨t, List.append_inj_left' ht rfl⟩

variable {retries : Nat} {halt : HaltScope} {parts more : List (List (Entry × Bool))}

/-- Parts of later batches do not matter. -/
theorem Ended.append_iff {os : List Outcome} (h : (batches os).length ≤ parts.length) :
    Ended retries halt os (parts ++ more) ↔ Ended retries halt os parts := by
  have htake : (parts ++ more).take (batches os).length = parts.take (batches os).length :=
    List.take_append_of_le_length h
  constructor
  · rintro (⟨cause, hlast⟩ | hsuffix | ⟨hhalt, hstop⟩)
    · exact .failed cause hlast
    · exact .exhausted hsuffix
    · exact .stopped hhalt (htake ▸ hstop)
  · rintro (⟨cause, hlast⟩ | hsuffix | ⟨hhalt, hstop⟩)
    · exact .failed cause hlast
    · exact .exhausted hsuffix
    · exact .stopped hhalt (htake ▸ hstop)

/-- Where a stop does not end the replay, what is shown does not matter. -/
theorem Ended.batch_iff {os : List Outcome} {parts parts' : List (List (Entry × Bool))} :
    Ended retries .batch os parts ↔ Ended retries .batch os parts' := by
  constructor <;> rintro (⟨cause, hlast⟩ | hsuffix | ⟨⟨⟩, -⟩)
  all_goals first | exact .failed cause hlast | exact .exhausted hsuffix

end Heard

/-! ## One round -/

section Polls

variable {C D P : Type} [LogConsumer C] {o : Nat → Outcome} {cs : Nat → C}

theorem poll_of_yields (h : Yields o cs) (timeout j : Nat) (i : Intake D P) (w : Shared) :
    ∃ w', Playback.poll timeout { i with consumer := cs j } w =
      ((o j, { i with consumer := cs (j + 1) }), w') := by
  obtain ⟨w', hpoll⟩ := h timeout j w
  refine ⟨w', ?_⟩
  rw [Playback.poll, Try.on_apply, hpoll]

/-- Either all polls find nothing, or they end with the first that does not. -/
theorem firstBatch_of_yields (h : Yields o cs) (timeout retries j : Nat) (i : Intake D P)
    (w : Shared) :
    ((∀ n < retries, o (j + n) = .ok []) ∧
      ∃ w', firstBatch (Playback.poll timeout) retries { i with consumer := cs j } w =
        ((.ok [], { i with consumer := cs (j + retries) }), w')) ∨
    ∃ m < retries, (∀ n < m, o (j + n) = .ok []) ∧ o (j + m) ≠ .ok [] ∧
      ∃ w', firstBatch (Playback.poll timeout) retries { i with consumer := cs j } w =
        ((o (j + m), { i with consumer := cs (j + m + 1) }), w') := by
  induction retries generalizing j w with
  | zero => exact .inl ⟨nofun, w, rfl⟩
  | succ retries ih =>
    obtain ⟨w₁, hpoll⟩ := poll_of_yields h timeout j i w
    by_cases hnil : o j = .ok []
    · rw [hnil] at hpoll
      rw [firstBatch_succ_of_poll_nil hpoll]
      have hcons {m : Nat} (hm : ∀ n < m, o (j + 1 + n) = .ok []) :
          ∀ n < m + 1, o (j + n) = .ok [] := by
        intro n hn
        cases n with
        | zero => exact hnil
        | succ n =>
          rw [← hm n (Nat.lt_of_succ_lt_succ hn), Nat.add_assoc, Nat.add_comm 1]
      rcases ih (j + 1) w₁ with ⟨hall, w', hfirst⟩ | ⟨m, hm, hall, hne, w', hfirst⟩
      · refine .inl ⟨hcons hall, w', hfirst.trans ?_⟩
        rw [Nat.add_assoc, Nat.add_comm 1]
      · have hj : j + 1 + m = j + (m + 1) := by rw [Nat.add_assoc, Nat.add_comm 1]
        rw [hj] at hne hfirst
        exact .inr ⟨m + 1, Nat.succ_lt_succ hm, hcons hall, hne, w', hfirst⟩
    · exact .inr ⟨0, Nat.succ_pos _, nofun, hnil, w₁, firstBatch_succ_of_poll hpoll hnil⟩

end Polls

/-- The first `k` polls of a replay: the batches were shown in these parts, and there was no reason
to end before. -/
structure Course (retries : Nat) (halt : HaltScope) (o : Nat → Outcome) (k : Nat)
    (parts : List (List (Entry × Bool))) : Prop where
  shown : List.Forall₂ Shown (batches (heard o k)) parts
  before : ∀ j < k, ¬ Ended retries halt (heard o j) parts

/-- Where a replay is after `j` polls, if it goes on. -/
structure Going (retries : Nat) (halt : HaltScope) (o : Nat → Outcome) (j : Nat)
    (parts : List (List (Entry × Bool))) : Prop extends Course retries halt o j parts where
  found : ∀ x, (heard o j).getLast? = some x → ∃ r rs, x = .ok (r :: rs)
  wanted : halt = .replay → ∀ x ∈ parts.flatten, x.2 = true

section Going

variable {o : Nat → Outcome} {retries : Nat} {halt : HaltScope} {j : Nat}
  {parts : List (List (Entry × Bool))}

theorem Going.zero (retries : Nat) (halt : HaltScope) (o : Nat → Outcome) :
    Going retries halt o 0 [] :=
  ⟨⟨.nil, nofun⟩, nofun, fun _ => nofun⟩

theorem Going.verdict_eq (h : Going retries halt o j parts) :
    verdict (heard o j) parts = .ok (tally (heard o j) parts) := by
  rw [verdict]
  split
  · next cause hlast =>
    obtain ⟨r, rs, hbatch⟩ := h.found _ hlast
    cases hbatch
  · rfl

/-- Fewer polls that find nothing do not end it. -/
theorem Going.not_ended (h : Going retries halt o j parts) {m : Nat} (hm : m < retries)
    (hnil : ∀ i < m, o (j + i) = .ok []) : ¬ Ended retries halt (heard o (j + m)) parts := by
  rintro (⟨cause, hlast⟩ | hsuffix | ⟨hhalt, x, hx, hstop⟩)
  · cases m with
    | zero =>
      obtain ⟨r, rs, hbatch⟩ := h.found _ hlast
      cases hbatch
    | succ m =>
      rw [← Nat.add_assoc, getLast?_heard_succ, hnil m m.lt_succ_self] at hlast
      cases hlast
  · rw [heard_add_of_nil hnil] at hsuffix
    refine not_replicate_suffix (fun hlast => ?_) hm hsuffix
    obtain ⟨r, rs, hbatch⟩ := h.found _ hlast
    cases hbatch
  · rw [batches_heard_add_of_nil hnil, h.shown.length_eq, List.take_length] at hx
    rw [h.wanted hhalt x hx] at hstop
    cases hstop

/-- The polls of a round come to an end only with the last of them. -/
theorem Going.before_add (h : Going retries halt o j parts) {m : Nat} (hm : m ≤ retries)
    (hnil : ∀ i, i + 1 < m → o (j + i) = .ok []) :
    ∀ i < j + m, ¬ Ended retries halt (heard o i) parts := by
  intro i hi
  by_cases hj : i < j
  · exact h.before i hj
  · obtain ⟨n, rfl⟩ := Nat.exists_eq_add_of_le (Nat.le_of_not_lt hj)
    have hn : n < m := Nat.lt_of_add_lt_add_left hi
    exact h.not_ended (Nat.lt_of_lt_of_le hn hm) fun i hi =>
      hnil i (Nat.lt_of_le_of_lt (Nat.succ_le_of_lt hi) hn)

/-- And with the last of them there is one more batch. -/
theorem Going.before_append (h : Going retries halt o j parts) {m : Nat} (hm : m < retries)
    (hnil : ∀ i < m, o (j + i) = .ok []) (part : List (Entry × Bool)) :
    ∀ i < j + m + 1, ¬ Ended retries halt (heard o i) (parts ++ [part]) := by
  intro i hi
  have hle : (batches (heard o i)).length ≤ parts.length := by
    rw [← h.shown.length_eq, ← batches_heard_add_of_nil hnil]
    exact length_batches_heard_mono o (Nat.le_of_lt_succ hi)
  rw [Ended.append_iff hle]
  exact h.before_add hm (fun i hi => hnil i (Nat.lt_of_succ_lt_succ hi)) i hi

/-- A round that finds nothing ends the replay. -/
theorem Going.exhausted (h : Going retries halt o j parts)
    (hnil : ∀ i < retries, o (j + i) = .ok []) :
    verdict (heard o (j + retries)) parts = .ok (tally (heard o j) parts) ∧
      Course retries halt o (j + retries) parts ∧
      Ended retries halt (heard o (j + retries)) parts := by
  have hbatches := batches_heard_add_of_nil hnil
  refine ⟨?_, ⟨hbatches ▸ h.shown,
    h.before_add (Nat.le_refl _) fun i hi => hnil i (Nat.lt_of_succ_lt hi)⟩, .exhausted ?_⟩
  · cases retries with
    | zero => exact h.verdict_eq
    | succ m =>
      rw [verdict, tally, hbatches, ← Nat.add_assoc, getLast?_heard_succ, hnil m m.lt_succ_self]
      rfl
  · rw [heard_add_of_nil hnil]
    exact List.suffix_append _ _

/-- So does a poll that fails. -/
theorem Going.failed (h : Going retries halt o j parts) {m : Nat} (hm : m < retries)
    (hnil : ∀ i < m, o (j + i) = .ok []) {cause : BrokerError} (herror : o (j + m) = .error cause) :
    verdict (heard o (j + m + 1)) parts = .error cause ∧
      Course retries halt o (j + m + 1) parts ∧
      Ended retries halt (heard o (j + m + 1)) parts := by
  have hlast : (heard o (j + m + 1)).getLast? = some (.error cause) := by
    rw [getLast?_heard_succ, herror]
  have hbatches : batches (heard o (j + m + 1)) = batches (heard o j) := by
    rw [heard_succ, batches_append, herror, batches_heard_add_of_nil hnil]
    exact List.append_nil _
  exact ⟨by rw [verdict, hlast], ⟨hbatches ▸ h.shown,
    h.before_add hm fun i hi => hnil i (Nat.lt_of_succ_lt_succ hi)⟩, .failed cause hlast⟩

section Found

variable {m : Nat} {batch : List Record} {part : List (Entry × Bool)}

theorem batches_heard_found (hnil : ∀ i < m, o (j + i) = .ok []) (hbatch : o (j + m) = .ok batch)
    (hne : batch ≠ []) : batches (heard o (j + m + 1)) = batches (heard o j) ++ [batch] := by
  rw [batches_heard_succ hbatch hne, batches_heard_add_of_nil hnil]

theorem Going.course (h : Going retries halt o j parts) (hm : m < retries)
    (hnil : ∀ i < m, o (j + i) = .ok []) (hbatch : o (j + m) = .ok batch) (hne : batch ≠ [])
    (hpart : Shown batch part) : Course retries halt o (j + m + 1) (parts ++ [part]) := by
  refine ⟨?_, h.before_append hm hnil part⟩
  rw [batches_heard_found hnil hbatch hne]
  exact List.rel_append h.shown (.cons hpart .nil)

theorem tally_found (hnil : ∀ i < m, o (j + i) = .ok []) (hbatch : o (j + m) = .ok batch)
    (hne : batch ≠ []) (parts : List (List (Entry × Bool))) (part : List (Entry × Bool)) :
    tally (heard o (j + m + 1)) (parts ++ [part]) =
      ⟨(tally (heard o j) parts).batches + 1, (tally (heard o j) parts).records + part.length,
        (tally (heard o j) parts).halted || part.any (!·.2)⟩ := by
  rw [tally, batches_heard_found hnil hbatch hne, List.length_append, List.flatten_append,
    List.flatten_singleton, List.length_append, List.any_append]
  rfl

theorem verdict_found (hbatch : o (j + m) = .ok batch) (parts : List (List (Entry × Bool))) :
    verdict (heard o (j + m + 1)) parts = .ok (tally (heard o (j + m + 1)) parts) := by
  rw [verdict, getLast?_heard_succ, hbatch]

/-- A stop may end the replay. -/
theorem Course.stopped (h : Course retries halt o (j + m + 1) (parts ++ [part]))
    (hhalt : halt = .replay) (hstop : part.any (!·.2) = true) :
    Ended retries halt (heard o (j + m + 1)) (parts ++ [part]) := by
  obtain ⟨x, hx, hstop⟩ := List.any_eq_true.mp hstop
  refine .stopped hhalt ⟨x, ?_, by simpa using hstop⟩
  rw [h.shown.length_eq, List.take_length, List.flatten_append]
  exact List.mem_append_right _ (by simpa using hx)

/-- A batch after which the replay goes on. -/
theorem Going.next (h : Going retries halt o j parts) (hm : m < retries)
    (hnil : ∀ i < m, o (j + i) = .ok []) (hbatch : o (j + m) = .ok batch) (hne : batch ≠ [])
    (hpart : Shown batch part) (hgo : (part.any (!·.2) && halt = .replay) = false) :
    Going retries halt o (j + m + 1) (parts ++ [part]) where
  toCourse := h.course hm hnil hbatch hne hpart
  found x hx := by
    rw [getLast?_heard_succ, hbatch] at hx
    cases hx
    obtain ⟨r, rs, rfl⟩ := List.exists_cons_of_ne_nil hne
    exact ⟨r, rs, rfl⟩
  wanted hhalt x hx := by
    rw [List.flatten_append, List.flatten_singleton] at hx
    rcases List.mem_append.mp hx with hx | hx
    · exact h.wanted hhalt x hx
    · rw [decide_eq_true hhalt, Bool.and_true, List.any_eq_false] at hgo
      simpa using hgo x hx

end Found

end Going

/-! ## All rounds -/

section Run

variable {C D P : Type} [LogConsumer C] [LogProducer P] [Deserializer D]
  {o : Nat → Outcome} {cs : Nat → C}

/-- A replay goes on until it has a reason to end, or until it has made all its rounds. -/
theorem drain_of_yields (h : Yields o cs) (timeout retries : Nat) (halt : HaltScope)
    (rounds : Nat) {j : Nat} {parts : List (List (Entry × Bool))} (i : Intake (Minuted D) P)
    (w : Shared) (hgoing : Going retries halt o j parts) :
    ∃ (k : Nat) (more : List (List (Entry × Bool))) (i' : Intake (Minuted D) P) (w' : Shared),
      drain (Playback.poll timeout) Playback.take retries halt rounds
          (tally (heard o j) parts) { i with consumer := cs j } w =
        ((verdict (heard o k) (parts ++ more), { i' with consumer := cs k }), w') ∧
      i'.deserializer.minutes = i.deserializer.minutes ++ more.flatten ∧
      Course retries halt o k (parts ++ more) ∧
      (Ended retries halt (heard o k) (parts ++ more) ∨ more.length = rounds) := by
  induction rounds generalizing j parts i w with
  | zero =>
    refine ⟨j, [], i, w, ?_, (List.append_nil _).symm, ?_, .inr rfl⟩ <;> rw [List.append_nil]
    · rw [hgoing.verdict_eq]
      rfl
    · exact hgoing.toCourse
  | succ rounds ih =>
    rcases firstBatch_of_yields h timeout retries j i w with
      ⟨hnil, w₁, hfirst⟩ | ⟨m, hm, hnil, hne, w₁, hfirst⟩
    · obtain ⟨hverdict, hcourse, hended⟩ := hgoing.exhausted hnil
      refine ⟨j + retries, [], i, w₁, ?_, (List.append_nil _).symm, ?_, .inl ?_⟩ <;>
        rw [List.append_nil]
      · rw [drain_succ_of_nil hfirst, hverdict]
      · exact hcourse
      · exact hended
    · cases hfound : o (j + m) with
      | error cause =>
        rw [hfound] at hfirst
        obtain ⟨hverdict, hcourse, hended⟩ := hgoing.failed hm hnil hfound
        refine ⟨j + m + 1, [], i, w₁, ?_, (List.append_nil _).symm, ?_, .inl ?_⟩ <;>
          rw [List.append_nil]
        · rw [drain_succ_of_error hfirst, hverdict]
        · exact hcourse
        · exact hended
      | ok batch =>
        have hbatch : batch ≠ [] := fun h => hne (by rw [hfound, h])
        rw [hfound] at hfirst
        obtain ⟨part, i₁, w₂, hfeed, hpart, hminutes⟩ :=
          feed_minuted batch (tally (heard o j) parts).records
            { i with consumer := cs (j + m + 1) }
            (w₁.withNotices (w₁.notices.push (.batch batch.length)))
        have hcourse := hgoing.course hm hnil hfound hbatch hpart
        have hstep :=
          (drain_succ_of_batch hfirst hbatch hfeed : drain _ _ retries halt (rounds + 1) _ _ _ = _)
        rw [← tally_found hnil hfound hbatch parts part] at hstep
        by_cases hhalt : (part.any (!·.2) && halt = .replay) = true
        · rw [if_pos hhalt] at hstep
          obtain ⟨hstop, hreplay⟩ := Bool.and_eq_true_iff.mp hhalt
          refine ⟨j + m + 1, [part], i₁, w₂.withNotices (w₂.notices.push .replayEnded), ?_, ?_,
            hcourse, .inl (hcourse.stopped (of_decide_eq_true hreplay) hstop)⟩
          · rw [verdict_found hfound]
            exact hstep
          · rw [hminutes, List.flatten_singleton]
        · rw [if_neg hhalt] at hstep
          obtain ⟨k, more, i₂, w₃, hdrain, hminutes₂, hcourse₂, hended⟩ :=
            ih i₁ w₂ (hgoing.next hm hnil hfound hbatch hpart (Bool.eq_false_of_not_eq_true hhalt))
          rw [List.append_assoc] at hdrain hcourse₂ hended
          refine ⟨k, part :: more, i₂, w₃, hstep.trans hdrain, ?_, hcourse₂,
            hended.imp_right fun hlength => ?_⟩
          · rw [hminutes₂, hminutes, List.append_assoc, List.flatten_cons]
          · rw [List.length_cons, hlength]

/-- A replay goes on until it has a reason to end, unless the consumer finds more batches than it
has. -/
theorem run_of_yields (h : Yields o cs) (timeout retries : Nat) (halt : HaltScope)
    (i : Intake (Minuted D) P) (w : Shared) :
    ∃ (k : Nat) (parts : List (List (Entry × Bool))) (i' : Intake (Minuted D) P) (w' : Shared),
      Playback.run timeout retries halt { i with consumer := cs 0 } w =
        ((verdict (heard o k) parts, { i' with consumer := cs k }), w') ∧
      i'.deserializer.minutes = i.deserializer.minutes ++ parts.flatten ∧
      Course retries halt o k parts ∧
      ((batches (heard o k)).length ≤
          LogConsumer.backlog (cs 0) w + Deserializer.appends i.deserializer →
        Ended retries halt (heard o k) parts) := by
  obtain ⟨k, parts, i', w', hdrain, hminutes, hcourse, hended⟩ :=
    drain_of_yields h timeout retries halt
      (LogConsumer.backlog (cs 0) w + Deserializer.appends i.deserializer + 1) i w
      (.zero retries halt o)
  refine ⟨k, parts, i', w', hdrain, hminutes, hcourse, fun hle => hended.resolve_right ?_⟩
  rw [hcourse.shown.length_eq] at hle
  exact Nat.ne_of_lt (Nat.lt_succ_of_le hle)

/-- In batch mode the first reason to end is the same, whatever is shown. -/
theorem Course.le_of_ended {retries k k' : Nat} {parts parts' : List (List (Entry × Bool))}
    (h : Course retries .batch o k parts) (h' : Ended retries .batch (heard o k') parts') :
    k ≤ k' :=
  Nat.le_of_not_lt fun hlt => h.before k' hlt (Ended.batch_iff.mp h')

/-- A replay consumes what its polls come to until it ends: with a failure, which it returns; with
as many empty batches in a row as there are retries; or, if a stop ends the replay, with the batch
in which the deserializer asks for it.  The deserializer is shown each batch up to its first stop,
and the summary counts the batches and the records shown, and tells whether there was a stop.  If a
stop does not end the replay, the polls are the same for any other deserializer.

A replay is not cut short: that would take more batches than the consumer has, as it says, and the
deserializer may still add. -/
theorem run_until_ended (h : Yields o cs) (timeout retries : Nat) (halt : HaltScope)
    (i : Intake (Minuted D) P) (w : Shared) :
    ∃ (k : Nat) (parts : List (List (Entry × Bool))) (i' : Intake (Minuted D) P) (w' : Shared),
      Playback.run timeout retries halt { i with consumer := cs 0 } w =
        ((verdict (heard o k) parts, { i' with consumer := cs k }), w') ∧
      i'.deserializer.minutes = i.deserializer.minutes ++ parts.flatten ∧
      List.Forall₂ Shown (batches (heard o k)) parts ∧
      (∀ j < k, ¬ Ended retries halt (heard o j) parts) ∧
      ((batches (heard o k)).length ≤
          LogConsumer.backlog (cs 0) w + Deserializer.appends i.deserializer →
        Ended retries halt (heard o k) parts ∧
        (halt = .batch → ∀ (D₂ P₂ : Type) [Deserializer D₂] [LogProducer P₂] (i₂ : Intake D₂ P₂)
          (w₂ : Shared),
          (batches (heard o k)).length ≤
              LogConsumer.backlog (cs 0) w₂ + Deserializer.appends i₂.deserializer →
            ∃ (result : Except BrokerError Summary) (i₂' : Intake D₂ P₂) (w₂' : Shared),
              Playback.run timeout retries .batch { i₂ with consumer := cs 0 } w₂ =
                ((result, { i₂' with consumer := cs k }), w₂'))) := by
  obtain ⟨k, parts, i', w', hrun, hminutes, hcourse, hended⟩ :=
    run_of_yields h timeout retries halt i w
  refine ⟨k, parts, i', w', hrun, hminutes, hcourse.shown, hcourse.before, fun hle =>
    ⟨hended hle, ?_⟩⟩
  rintro rfl D₂ P₂ _ _ i₂ w₂ hle₂
  obtain ⟨k₂, parts₂, j, w₂', hrun₂, -, hcourse₂, hended₂⟩ :=
    run_of_yields h timeout retries .batch
      (⟨{ deserializer := i₂.deserializer }, i₂.write⟩ : Intake (Minuted D₂) P₂) w₂
  -- The second run ends no later than the first, and so within its rounds.
  have hk₂ : k₂ ≤ k := hcourse₂.le_of_ended (hended hle)
  have hk : k = k₂ := Nat.le_antisymm
    (hcourse.le_of_ended (hended₂ (Nat.le_trans (length_batches_heard_mono o hk₂) hle₂))) hk₂
  have hplain := abstracts_run timeout retries .batch
    { (⟨{ deserializer := i₂.deserializer }, i₂.write⟩ : Intake (Minuted D₂) P₂) with
      consumer := cs 0 } w₂
  rw [Try.run_apply, Try.run_apply, hrun₂, ← hk] at hplain
  exact ⟨_, Minuted.intake j, w₂', hplain⟩

end Run

end PositionLog.Replay

/-! ## Scripts -/

namespace PositionLog.Scripted.Consumer

open Replay (Outcome Yields heard batches)

/-- What a poll comes to.  After the script, all polls find nothing. -/
def outcome (c : Consumer) (k : Nat) : Outcome :=
  match c.polls[k]? with
  | none => .ok []
  | some (.fail cause) => .error cause
  | some (.batch _ _ records) => .ok records

/-- The consumer after so many polls. -/
def polled (c : Consumer) (k : Nat) : Consumer := { c with polls := c.polls.drop k }

theorem yields (c : Consumer) : Yields c.outcome c.polled := by
  intro timeout k w
  have hhead : (c.polled k).polls.head? = c.polls[k]? := List.head?_drop
  have htail : (c.polled k).polls.tail = c.polls.drop (k + 1) := List.tail_drop
  have hpoll : (LogConsumer.poll timeout : Request Consumer (List Record)) = poll timeout := rfl
  rw [hpoll, poll, Try.bind_of_ok (Try.get_apply _ _), Try.bind_of_ok (Try.lift_apply _ _ _),
    Try.bind_of_ok (Try.set_apply _ _ _), hhead, htail, outcome]
  cases c.polls[k]? with
  | none => exact ⟨_, rfl⟩
  | some a =>
    cases a with
    | fail cause => exact ⟨_, rfl⟩
    | batch revoked assigned records => exact ⟨_, rfl⟩

/-- There are no more batches than the script has polls. -/
theorem length_batches_le (c : Consumer) (k : Nat) :
    (batches (heard c.outcome k)).length ≤ min k c.polls.length := by
  induction k with
  | zero => exact Nat.zero_le _
  | succ k ih =>
    rw [Replay.heard_succ, Replay.batches_append, List.length_append]
    have hone : (batches [c.outcome k]).length ≤ 1 := List.length_filterMap_le _ _
    by_cases hk : k < c.polls.length
    · omega
    · have hnil : c.outcome k = .ok [] := by
        rw [outcome, List.getElem?_eq_none (Nat.le_of_not_lt hk)]
      rw [hnil]
      show _ + 0 ≤ _
      omega

end PositionLog.Scripted.Consumer

namespace PositionLog.Replay

/-- Two records are found, then nothing, then one more record; and then polls fail. -/
def halting : Scripted.Consumer where
  party := 0
  polls := [.batch none none [⟨0, 0, [97], [1]⟩, ⟨0, 1, [98], [2]⟩], .batch none none [],
    .batch none none [⟨0, 2, [99], [3]⟩], .fail .closed]

/-- The replay of a script ends as it should. -/
theorem run_until_ended_of_script :
    ∃ (k : Nat) (parts : List (List (Entry × Bool)))
      (i' : Intake (Minuted Scripted.Deserializer) Scripted.Producer) (w' : Shared),
      Playback.run 5 2 .batch
          { deserializer := { deserializer := { stops := [1] } }, consumer := halting } {} =
        ((verdict (heard halting.outcome k) parts, { i' with consumer := halting.polled k }), w') ∧
      i'.deserializer.minutes = parts.flatten ∧
      Ended 2 .batch (heard halting.outcome k) parts := by
  obtain ⟨k, parts, i', w', hrun, hminutes, -, -, hended⟩ :=
    run_until_ended halting.yields 5 2 .batch
      (⟨{ deserializer := { stops := [1] } }, none⟩ :
        Intake (Minuted Scripted.Deserializer) Scripted.Producer) {}
  have hle : (batches (heard halting.outcome k)).length ≤ 4 :=
    (halting.length_batches_le k).trans (Nat.min_le_right _ _)
  exact ⟨k, parts, i', w', hrun, hminutes, (hended hle).1⟩

end PositionLog.Replay
