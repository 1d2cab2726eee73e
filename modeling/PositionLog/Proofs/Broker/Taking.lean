import PositionLog.Proofs.Broker.Turns

/-!
# A poll is one take

The partitions are read one after the other, and share the room that there is in one answer.  This
comes to the same as to take so many records from the front of all that are unread.  Whatever
happened to a consumer, there is room for at least one record, so a poll comes back empty only if
nothing is unread.
-/

namespace PositionLog.Broker

/-! ## The room left -/

section TakeFrom

variable (b : Broker) (topic : String) (limit : Nat) (positions : Slots Nat)

/-- The partitions that come later are read as if they were read alone, with the room that the
earlier ones have left. -/
theorem takeFrom_append (ps qs : List Nat) (room : Nat) (taken : List Record) :
    ∃ more positions',
      b.takeFrom topic ps room taken positions = (taken.reverse ++ more, positions') ∧
      more.length ≤ room ∧
      b.takeFrom topic (ps ++ qs) room taken positions =
        b.takeFrom topic qs (room - more.length) (more.reverse ++ taken) positions' := by
  induction ps generalizing room taken positions with
  | nil => exact ⟨[], positions, by rw [List.append_nil]; rfl, Nat.zero_le room, rfl⟩
  | cons p ps ih =>
    rw [List.cons_append, takeFrom_cons, takeFrom_cons]
    generalize b.unreadOf topic positions p = unread
    obtain ⟨more, positions', htaken, hroom, hrest⟩ :=
      ih (advance positions p (min room unread.length)) (room - unread.length)
        ((unread.take room).reverse ++ taken)
    have hlen : (unread.take room ++ more).length = min room unread.length + more.length := by
      rw [List.length_append, List.length_take]
    refine ⟨unread.take room ++ more, positions', ?_, by omega, ?_⟩
    · rw [htaken, List.reverse_append, List.reverse_reverse, List.append_assoc]
    · have hleft : room - unread.length - more.length =
          room - (unread.take room ++ more).length := by omega
      rw [hrest, hleft, List.reverse_append, List.append_assoc]

/-- Before each partition, no more was taken than there was room for, and what is left of the room
is the difference. -/
theorem takeUnread_split {k : Nat} (hk : k ≤ b.partitions) :
    let x := b.takeFrom topic (List.range k) limit [] positions
    x.1.length ≤ limit ∧
      b.takeUnread topic limit positions =
        b.takeFrom topic (List.range' k (b.partitions - k)) (limit - x.1.length) x.1.reverse
          x.2 := by
  intro x
  obtain ⟨more, positions', htaken, hroom, hrest⟩ := b.takeFrom_append topic positions
    (List.range k) (List.range' k (b.partitions - k)) limit []
  have hx : x = (more, positions') := htaken
  have hrange : List.range b.partitions = List.range k ++ List.range' k (b.partitions - k) := by
    have happend := List.range'_append_1 (s := 0) (m := k) (n := b.partitions - k)
    rw [Nat.zero_add, Nat.add_sub_cancel' hk] at happend
    rw [List.range_eq_range', List.range_eq_range', happend]
  rw [takeUnread, hrange, hrest, hx, List.append_nil]
  exact ⟨hroom, rfl⟩

/-- Nothing is unread once all positions are where the logs end, or beyond. -/
theorem unreadAll_eq_nil :
    b.unreadAll topic positions = [] ↔
      ∀ p < b.partitions, (b.entries topic p).size ≤ positions.getD p 0 := by
  simp only [unreadAll, List.flatMap_eq_nil_iff, List.mem_range, unreadOf, List.drop_eq_nil_iff,
    length_records]

end TakeFrom

/-! ## Room for one record -/

/-- What happens where consumers are made. -/
inductive Happening where
  | create (maxPollRecords : Nat) (failsToClose : Bool)
  | turn (t : Turn)
  /-- Something else happens to what is shared. -/
  | elsewhere (x : StateM Shared Unit)

def Happening.run : Happening → Act (List Consumer) Unit
  | create maxPollRecords failsToClose => do
    let c ← Consumer.create maxPollRecords failsToClose
    modify (· ++ [c])
  | turn t => t.run
  | elsewhere x => x

/-- Each of these consumers has room for a record. -/
def AllRoomy (cs : List Consumer) : Prop := ∀ c ∈ cs, 0 < c.maxPollRecords

theorem Consumer.maxPollRecords_polled (c : Consumer) (b : Broker) :
    (c.polled b).2.maxPollRecords = c.maxPollRecords := by
  rw [polled]
  repeat' split
  all_goals rfl

/-- A consumer keeps its room. -/
theorem Ask.maxPollRecords_run (a : Ask) (c : Consumer) (w : Shared) :
    (a.run c w).1.2.maxPollRecords = c.maxPollRecords := by
  cases a with
  | subscribe topic l => cases hopen : c.closed <;> simp [run, Consumer.subscribe, hopen]
  | unsubscribe =>
    rcases c with ⟨_ | ⟨topic, _ | _ | _, positions⟩, _ | _, _, _, _, _, _⟩ <;> rfl
  | poll =>
    obtain ⟨w', hpoll, -⟩ := c.poll_eq w
    rw [run, Try.run_apply, hpoll]
    exact c.maxPollRecords_polled w.broker
  | stall polls => rfl
  | close => rcases c with ⟨_, _ | _, _ | _, _, _, _, _⟩ <;> rfl

theorem AllRoomy.member {cs : List Consumer} (h : AllRoomy cs) (who : Nat) (a : Ask) (w : Shared) :
    AllRoomy (a.run.member who cs w).1.2 := by
  cases hc : cs[who]? with
  | none =>
    rw [Act.member_of_none hc]
    exact h
  | some c =>
    have hkept := a.maxPollRecords_run c w
    rcases hrun : a.run c w with ⟨⟨answer, c₁⟩, w₁⟩
    rw [hrun] at hkept
    rw [Act.member_of_some hc hrun]
    intro c' hc'
    rcases List.mem_or_eq_of_mem_set hc' with hold | rfl
    · exact h c' hold
    · exact hkept ▸ h c (List.mem_of_getElem? hc)

theorem AllRoomy.run {cs : List Consumer} (h : AllRoomy cs) (x : Happening) (w : Shared) :
    AllRoomy (x.run cs w).1.2 := by
  cases x with
  | create maxPollRecords failsToClose =>
    intro c hc
    rcases List.mem_append.mp hc with hold | hnew
    · exact h c hold
    · rw [List.mem_singleton.mp hnew]
      exact Nat.le_max_left 1 maxPollRecords
  | turn t =>
    cases t with
    | broker command => exact h
    | consumer who a => exact h.member who a w
  | elsewhere x => exact h

theorem AllRoomy.forM {cs : List Consumer} (h : AllRoomy cs) (xs : List Happening) (w : Shared) :
    AllRoomy (xs.forM Happening.run cs w).1.2 := by
  induction xs generalizing cs w with
  | nil => exact h
  | cons x xs ih =>
    rw [Act.forM_cons_of_eq rfl]
    exact ih (h.run x w) _

/-- A poll of a consumer that is open, was assigned its partitions and is not slow takes as many
records as it may from the front of the unread ones, one partition after the other, and nothing
changes but its positions and the number of its polls.  Each position moves by the number of records
taken from its partition.  At each partition, no more was taken than there was room for.  Nothing is
taken exactly if no partition has an unread record. -/
theorem poll_takes_unread (xs : List Happening) (w₀ : Shared) :
    let x := xs.forM Happening.run [] w₀
    let w := x.2
    ∀ c ∈ x.1.2, ∀ (topic : String) (listener : Option Listener) (positions : Slots Nat),
      c.closed = false → c.subscription = some ⟨topic, listener, some positions⟩ →
      c.stalledPolls = 0 →
      let unread := (List.range w.broker.partitions).flatMap fun p =>
        (w.broker.records topic p).drop (positions.getD p 0)
      let batch := unread.take (min c.maxPollRecords unread.length)
      (∃ positions',
        c.poll w = ((.ok batch, { c with
          subscription := some ⟨topic, listener, some positions'⟩
          polls := c.polls + 1 }), w) ∧
        ∀ p, positions'.getD p 0 =
          positions.getD p 0 + (batch.filter (·.partition = (p : Int))).length) ∧
      (∀ k ≤ w.broker.partitions,
        let y := w.broker.takeFrom topic (List.range k) c.maxPollRecords [] positions
        y.1.length ≤ c.maxPollRecords ∧
          w.broker.takeUnread topic c.maxPollRecords positions =
            w.broker.takeFrom topic (List.range' k (w.broker.partitions - k))
              (c.maxPollRecords - y.1.length) y.1.reverse y.2) ∧
      (batch = [] ↔
        ∀ p < w.broker.partitions, (w.broker.entries topic p).size ≤ positions.getD p 0) := by
  intro x w c hc topic listener positions hopen hs hstalled unread batch
  have hnone : AllRoomy [] := fun _ h => absurd h List.not_mem_nil
  have hroom : 0 < c.maxPollRecords := hnone.forM xs w₀ c hc
  have hbatch : batch = unread.take c.maxPollRecords := List.take_eq_take_min.symm
  refine ⟨?_, fun k hk => w.broker.takeUnread_split topic c.maxPollRecords positions hk, ?_⟩
  · obtain ⟨positions', hpoll, hmoved, -⟩ :=
      Consumer.poll_of_not_stalled hopen hs (Consumer.assign_some ⟨topic, listener, none⟩ _ w)
        hstalled
    refine ⟨positions', ?_, ?_⟩
    · rw [hpoll, hbatch, hstalled]
      rfl
    · rw [hbatch]
      exact hmoved
  · rw [hbatch, List.take_eq_nil_iff, or_iff_right hroom.ne']
    exact w.broker.unreadAll_eq_nil topic positions

/-- A consumer that has room for two records seeks past the end of a partition, before four records
are added, one of them to that partition. -/
def overtaken : List Happening :=
  [.create 2 false, .turn (.consumer 0 (.subscribe "t" (some (.probe [.seek ⟨"t", 1⟩ 7])))),
    .turn (.consumer 0 .poll), .turn (.broker (.append "t" [97] [1])),
    .turn (.broker (.append "t" [100] [2])), .turn (.broker (.append "t" [98] [3])),
    .turn (.broker (.append "t" [99] [4]))]

/-- Its next poll takes two of the three records in the other partition. -/
theorem poll_takes_unread_of_overtaken :
    let x := overtaken.forM Happening.run [] { broker := .withPartitions 2 }
    ∃ c ∈ x.1.2, ∃ positions',
      (c.poll x.2).1.1 = .ok [⟨0, 0, [97], [1]⟩, ⟨0, 1, [98], [3]⟩] ∧
      (c.poll x.2).1.2.subscription =
        some ⟨"t", some (.probe [.seek ⟨"t", 1⟩ 7]), some positions'⟩ ∧
      positions'.getD 0 0 = 2 ∧ positions'.getD 1 0 = 7 := by
  let l : Listener := .probe [.seek ⟨"t", 1⟩ 7]
  let positions : Slots Nat := Slots.set {} 1 7
  let c : Consumer :=
    { subscription := some ⟨"t", l, positions⟩, maxPollRecords := 2, polls := 1,
      subscribeCalls := 1 }
  have hstart : positions.getD 0 0 = 0 ∧ positions.getD 1 0 = 7 := by decide +kernel
  have hcs : (overtaken.forM Happening.run [] { broker := .withPartitions 2 }).1.2 = [c] := by
    decide +kernel
  have hunread : let w := (overtaken.forM Happening.run [] { broker := .withPartitions 2 }).2
      ((List.range w.broker.partitions).flatMap fun p =>
        (w.broker.records "t" p).drop (positions.getD p 0)) =
      [⟨0, 0, [97], [1]⟩, ⟨0, 1, [98], [3]⟩, ⟨0, 2, [99], [4]⟩] := by decide +kernel
  have htake := poll_takes_unread overtaken { broker := .withPartitions 2 }
  generalize overtaken.forM Happening.run [] { broker := .withPartitions 2 } = x
    at hcs hunread htake ⊢
  have hc : c ∈ x.1.2 := hcs ▸ List.mem_singleton_self c
  obtain ⟨⟨positions', hpoll, hmoved⟩, -, -⟩ := htake c hc "t" l positions rfl rfl rfl
  simp only [hunread] at hpoll hmoved
  refine ⟨c, hc, positions', ?_, ?_, ?_, ?_⟩
  · rw [hpoll]
    rfl
  · rw [hpoll]
  · rw [hmoved, hstart.1]
    rfl
  · rw [hmoved, hstart.2]
    rfl

end PositionLog.Broker
