import PositionLog.Proofs.Broker.Subscription
import PositionLog.Scripted.Consumer

/-!
# How partitions are rewound

A listener that rewinds deals with one partition after the other: it asks where the partition ends,
and then for one seek, if there is a place to start.  Whatever goes wrong with one partition, the
others are dealt with in the same way.  So a consumer that listens starts each partition as many
records before its end as are to be read back.
-/

namespace PositionLog

/-- A step, and a note of what came of it. -/
def Act.noting {S α β : Type} (note : α → β) (x : Act S α) : Act (S × List β) α := fun s => do
  let (a, t) ← x s.1
  return (a, t, s.2 ++ [note a])

theorem Act.noting_of_eq {S α β : Type} (note : α → β) {x : Act S α} {s t : S} {w w' : Shared}
    {a : α} (h : x s w = ((a, t), w')) (notes : List β) :
    x.noting note (s, notes) w = ((a, t, notes ++ [note a]), w') := by
  have hnoting : x.noting note (s, notes) w =
      (((x s w).1.1, (x s w).1.2, notes ++ [note (x s w).1.1]), (x s w).2) := rfl
  rw [hnoting, h]

/-- A call of a cursor, and its answer. -/
inductive CursorCall where
  | endOffset (p : TopicPartition) (answer : Except BrokerError Int)
  | seek (p : TopicPartition) (offset : Int) (answer : Except BrokerError Unit)
deriving DecidableEq, Repr

/-- The partition that a call is about. -/
def CursorCall.partition : CursorCall → TopicPartition
  | endOffset p _ | seek p _ _ => p

namespace Cursor

variable {S : Type}

/-- The same cursor, with all calls of it noted. -/
def noted (c : Cursor S) : Cursor (S × List CursorCall) where
  endOffset p := (c.endOffset p).noting (.endOffset p)
  seek p offset := (c.seek p offset).noting (.seek p offset)

/-- What the cursor answers about a partition depends on this partition alone. -/
structure Answers (c : Cursor S) (ends : TopicPartition → Except BrokerError Int)
    (seeks : TopicPartition → Int → Except BrokerError Unit) : Prop where
  endOffset : ∀ p s w, (c.endOffset p s w).1.1 = ends p
  seek : ∀ p offset s w, (c.seek p offset s w).1.1 = seeks p offset

end Cursor

/-- How a cursor deals with a partition. -/
structure Dealing where
  partition : TopicPartition
  end_ : Except BrokerError Int
  seek : (offset : Int) → Except BrokerError Unit

/-- The calls about a partition: one for its end, and one to seek if there is a place to start. -/
def Dealing.calls (r : Rewind) (d : Dealing) : List CursorCall :=
  .endOffset d.partition d.end_ ::
    match d.end_ with
    | .error _ => []
    | .ok end_ => (r.target end_).toList.map fun start : Nat =>
        .seek d.partition start (d.seek start)

namespace Rewind

variable {S : Type}

/-- The calls of a cursor by a listener that rewinds. -/
def calls (r : Rewind) (c : Cursor S) (ps : List TopicPartition) (s : S) (w : Shared) :
    List CursorCall :=
  ((Listener.rewind r).assigned c.noted ps (s, []) w).1.2.2

/-! ## One partition -/

section Move

variable (r : Rewind) (c : Cursor S) (p : TopicPartition) (s : S) (calls : List CursorCall)
  (w : Shared)

/-- One partition is dealt with as the cursor answers.  That the calls are noted changes nothing. -/
theorem move_noted :
    ∃ (d : Dealing) (s' : S) (w' : Shared), r.move c p s w = (((), s'), w') ∧
      r.move c.noted p (s, calls) w = (((), s', calls ++ d.calls r), w') ∧ d.partition = p ∧
      ∀ ends seeks, c.Answers ends seeks → d = ⟨p, ends p, seeks p⟩ := by
  rcases hend : c.endOffset p s w with ⟨⟨answer, s₁⟩, w₁⟩
  have hnoted : c.noted.endOffset p (s, calls) w =
      ((answer, s₁, calls ++ [.endOffset p answer]), w₁) := Act.noting_of_eq _ hend calls
  have hends (ends seeks) (h : c.Answers ends seeks) : answer = ends p := by
    rw [← h.endOffset p s w, hend]
  rw [move, move, Act.bind_of_eq hend, Act.bind_of_eq hnoted]
  -- Where nothing is sought, it does not count what the cursor would answer.
  have hunsought (ends seeks) (h : c.Answers ends seeks) :
      (⟨p, answer, fun offset => (c.seek p offset s w).1.1⟩ : Dealing) =
        ⟨p, ends p, seeks p⟩ := by
    rw [hends ends seeks h]
    exact congrArg (Dealing.mk p (ends p)) (funext fun offset => h.seek p offset s w)
  cases answer with
  | error cause => exact ⟨_, s₁, _, rfl, rfl, rfl, hunsought⟩
  | ok end_ =>
    dsimp only
    cases htarget : r.target end_ with
    | none =>
      refine ⟨_, s₁, _, rfl, ?_, rfl, hunsought⟩
      rw [Dealing.calls]
      dsimp only
      rw [htarget]
      rfl
    | some start =>
      let w₂ := w₁.withNotices (w₁.notices.push (.seeking p end_ start))
      rcases hseek : c.seek p start s₁ w₂ with ⟨⟨moved, s₂⟩, w₃⟩
      have hsought : c.noted.seek p start (s₁, calls ++ [.endOffset p (.ok end_)]) w₂ =
          ((moved, s₂, calls ++ [.endOffset p (.ok end_)] ++ [.seek p start moved]), w₃) :=
        Act.noting_of_eq _ hseek _
      let d : Dealing := ⟨p, .ok end_, fun offset => (c.seek p offset s₁ w₂).1.1⟩
      have hcalls : d.calls r = [.endOffset p (.ok end_), .seek p start moved] := by
        rw [Dealing.calls]
        dsimp only [d]
        rw [htarget, Option.toList_some, List.map_singleton, hseek]
      have hd (ends seeks) (h : c.Answers ends seeks) : d = ⟨p, ends p, seeks p⟩ := by
        rw [← hends ends seeks h]
        exact congrArg (Dealing.mk p (.ok end_)) (funext fun offset => h.seek p offset s₁ w₂)
      rw [List.append_assoc] at hsought
      dsimp only
      rw [Act.bind_of_eq (Act.lift_of_eq (Shared.tell_eq _ w₁)), Act.bind_of_eq hseek,
        Act.bind_of_eq (Act.lift_of_eq (Shared.tell_eq _ w₁)), Act.bind_of_eq hsought]
      cases moved with
      | error cause => exact ⟨d, s₂, _, rfl, hcalls ▸ rfl, rfl, hd⟩
      | ok _ => exact ⟨d, s₂, _, rfl, hcalls ▸ rfl, rfl, hd⟩

end Move

/-! ## All partitions -/

/-- The partitions are dealt with one after the other, whatever goes wrong. -/
theorem forM_move_noted (r : Rewind) (c : Cursor S) (ps : List TopicPartition) (s : S)
    (calls : List CursorCall) (w : Shared) :
    ∃ (ds : List Dealing) (s' : S) (w' : Shared), ps.forM (r.move c) s w = (((), s'), w') ∧
      ps.forM (r.move c.noted) (s, calls) w =
        (((), s', calls ++ ds.flatMap (Dealing.calls r)), w') ∧
      ds.map Dealing.partition = ps ∧
      ∀ ends seeks, c.Answers ends seeks → ds = ps.map fun p => ⟨p, ends p, seeks p⟩ := by
  induction ps generalizing s calls w with
  | nil =>
    refine ⟨[], s, w, rfl, ?_, rfl, fun _ _ _ => rfl⟩
    rw [List.flatMap_nil, List.append_nil]
    rfl
  | cons p ps ih =>
    obtain ⟨d, s₁, w₁, hmove, hnoted, hpartition, hanswers⟩ := r.move_noted c p s calls w
    obtain ⟨ds, s₂, w₂, hmoves, hallNoted, hpartitions, hallAnswers⟩ :=
      ih s₁ (calls ++ d.calls r) w₁
    refine ⟨d :: ds, s₂, w₂, (Act.forM_cons_of_eq hmove ps).trans hmoves, ?_, ?_, ?_⟩
    · rw [Act.forM_cons_of_eq hnoted, hallNoted, List.flatMap_cons, List.append_assoc]
    · rw [List.map_cons, hpartition, hpartitions]
    · intro ends seeks h
      rw [hanswers ends seeks h, hallAnswers ends seeks h, List.map_cons]

theorem assigned_noted (r : Rewind) (c : Cursor S) (ps : List TopicPartition) (s : S)
    (w : Shared) :
    ∃ s' w', (Listener.rewind r).assigned c ps s w = (((), s'), w') ∧
      (Listener.rewind r).assigned c.noted ps (s, []) w = (((), s', r.calls c ps s w), w') := by
  obtain ⟨ds, s', w', hmoves, hnoted, -, -⟩ := r.forM_move_noted c ps s [] w
  refine ⟨s', w', hmoves, hnoted.trans ?_⟩
  rw [calls, Listener.assigned, hnoted]

theorem exists_dealings (r : Rewind) (c : Cursor S) (ps : List TopicPartition) (s : S)
    (w : Shared) :
    ∃ ds : List Dealing, ds.map Dealing.partition = ps ∧
      r.calls c ps s w = ds.flatMap (Dealing.calls r) ∧
      ∀ ends seeks, c.Answers ends seeks → ds = ps.map fun p => ⟨p, ends p, seeks p⟩ := by
  obtain ⟨ds, s', w', -, hnoted, hpartitions, hanswers⟩ := r.forM_move_noted c ps s [] w
  refine ⟨ds, hpartitions, ?_, hanswers⟩
  rw [calls, Listener.assigned, hnoted]
  rfl

theorem calls_of_answers {r : Rewind} {c : Cursor S}
    {ends : TopicPartition → Except BrokerError Int}
    {seeks : TopicPartition → Int → Except BrokerError Unit} (h : c.Answers ends seeks)
    (ps : List TopicPartition) (s : S) (w : Shared) :
    r.calls c ps s w = ps.flatMap fun p => Dealing.calls r ⟨p, ends p, seeks p⟩ := by
  obtain ⟨ds, -, hcalls, hanswers⟩ := r.exists_dealings c ps s w
  rw [hcalls, hanswers ends seeks h, List.flatMap_map]

end Rewind

namespace Dealing

variable {r : Rewind} {d : Dealing} {x : CursorCall}

theorem cases_of_mem_calls (h : x ∈ d.calls r) :
    x = .endOffset d.partition d.end_ ∨
      ∃ start : Nat, x = .seek d.partition start (d.seek start) := by
  rw [calls] at h
  rcases List.mem_cons.mp h with h | h
  · exact .inl h
  · cases hend : d.end_ with
    | error cause =>
      rw [hend] at h
      cases h
    | ok end_ =>
      rw [hend] at h
      obtain ⟨start, -, h⟩ := List.mem_map.mp h
      exact .inr ⟨start, h.symm⟩

theorem partition_of_mem_calls (h : x ∈ d.calls r) : x.partition = d.partition := by
  rcases cases_of_mem_calls h with rfl | ⟨start, rfl⟩
  · rfl
  · rfl

theorem nonneg_of_mem_calls {p : TopicPartition} {offset : Int} {answer : Except BrokerError Unit}
    (h : .seek p offset answer ∈ d.calls r) : 0 ≤ offset := by
  rcases cases_of_mem_calls h with h | ⟨start, h⟩
  · cases h
  · cases h
    exact Int.natCast_nonneg start

end Dealing

/-- What is answered about one partition makes no difference to the calls about the others. -/
theorem Rewind.filter_calls_congr {S T : Type} {c : Cursor S} {c' : Cursor T}
    {ends ends' : TopicPartition → Except BrokerError Int}
    {seeks seeks' : TopicPartition → Int → Except BrokerError Unit} (h : c.Answers ends seeks)
    (h' : c'.Answers ends' seeks') {q : TopicPartition}
    (hq : ∀ p, p ≠ q → ends' p = ends p ∧ seeks' p = seeks p) (r : Rewind)
    (ps : List TopicPartition) (s : S) (s' : T) (w w' : Shared) :
    (r.calls c' ps s' w').filter (·.partition ≠ q) =
      (r.calls c ps s w).filter (·.partition ≠ q) := by
  rw [calls_of_answers h, calls_of_answers h', List.filter_flatMap, List.filter_flatMap]
  refine congrArg List.flatten (List.map_congr_left fun p _ => ?_)
  by_cases hp : p = q
  · have hnone (d : Dealing) (hd : d.partition = q) :
        (d.calls r).filter (·.partition ≠ q) = [] := by
      refine List.filter_eq_nil_iff.mpr fun x hx => ?_
      rw [Dealing.partition_of_mem_calls hx, hd]
      simp
    rw [hnone _ hp, hnone _ hp]
  · obtain ⟨hends, hseeks⟩ := hq p hp
    rw [hends, hseeks]

namespace Broker

/-! ## A consumer that listens -/

theorem lt_of_endOffset {b : Broker} {topic : String} {p end_ : Nat}
    (h : b.endOffset ⟨topic, p⟩ = .ok end_) :
    p < b.partitions ∧ (b.entries topic p).size = end_ := by
  rw [endOffset_eq] at h
  split at h
  · cases h
  · rename_i hin
    exact ⟨Int.ofNat_lt.mp (not_le.mp (not_or.mp hin).2), Except.ok.inj h⟩

/-- The first poll finds each partition as many records before its end as are to be read back. -/
theorem getD_settled_rewind {b : Broker} {topic : String} {p end_ : Nat}
    (h : b.endOffset ⟨topic, p⟩ = .ok end_) (r : Rewind) :
    (Subscription.settled { topic, listener := some (.rewind r) } b).getD p 0 =
      end_ - r.reach := by
  obtain ⟨hp, rfl⟩ := lt_of_endOffset h
  rw [Subscription.getD_settled, start_rewind hp]

/-- Of records at offsets that follow one another, few are before the end. -/
theorem length_filter_offset_lt {rs : List Record} {start : Nat}
    (h : ∀ (i : Nat) (y : Record), rs[i]? = some y → y.offset = (start + i : Nat)) (end_ : Nat) :
    (rs.filter fun y : Record => y.offset < (end_ : Int)).length ≤ end_ - start := by
  induction rs generalizing start with
  | nil => exact Nat.zero_le _
  | cons y rs ih =>
    have hfirst : y.offset = (start : Nat) := h 0 y rfl
    have hrest := @ih (start + 1) fun i z hz => by
      rw [h (i + 1) z hz]
      congr 1
      omega
    rw [List.filter_cons]
    split
    · rename_i hlt
      rw [decide_eq_true_eq, hfirst] at hlt
      rw [List.length_cons]
      omega
    · omega

/-- A subscription that was rewound reads back no more of the records that were there. -/
theorem ReadsOnce.length_filter_le {topic : String} {r : Rewind} {limit : Nat} {xs : List Polled}
    {b : Broker} (h : ReadsOnce { topic, listener := some (.rewind r) } limit xs b) {x : Polled}
    (hx : x ∈ xs.head?) {p end_ : Nat} (hend : x.before.broker.endOffset ⟨topic, p⟩ = .ok end_) :
    ((xs.flatMap Polled.records).filter fun y : Record =>
      y.partition = (p : Int) ∧ y.offset < (end_ : Int)).length ≤ r.reach := by
  obtain ⟨hp, hsize⟩ := lt_of_endOffset hend
  have hstart : (x.before.broker.lastSeek? p
      ((Listener.rewind r).seeks x.before.broker topic)).getD 0 = end_ - r.reach := by
    rw [← hsize]
    exact start_rewind hp r topic
  have hfilter : (xs.flatMap Polled.records).filter
      (fun y : Record => y.partition = (p : Int) ∧ y.offset < (end_ : Int)) =
        ((xs.flatMap Polled.records).filter (Record.isIn p)).filter
          fun y : Record => y.offset < (end_ : Int) := by
    rw [List.filter_filter]
    refine List.filter_congr fun y _ => ?_
    rw [Record.isIn, Bool.and_comm, Bool.decide_and]
  have hoffsets (i : Nat) (y : Record)
      (hy : ((xs.flatMap Polled.records).filter (Record.isIn p))[i]? = some y) :
      y.offset = (end_ - r.reach + i : Nat) := by
    have hmem := List.mem_filter.mp (List.mem_of_getElem? hy)
    obtain ⟨q, hq, hqp⟩ := h.partition y hmem.1
    have hpq : p = q := Int.ofNat.inj ((of_decide_eq_true hmem.2).symm.trans hqp)
    obtain ⟨e, -, rfl⟩ := h.inOrder x hx p (hpq ▸ hq) i y hy
    exact congrArg (fun start : Nat => ((start + i : Nat) : Int)) hstart
  rw [hfilter]
  have hle := length_filter_offset_lt hoffsets end_
  omega

end Broker

namespace Rewind

open Broker

/-- Whatever a cursor answers, a listener that rewinds asks it for the end of each partition once,
in order, and right after that for one seek, if there is a place to start, and for nothing else.
What goes wrong with one partition makes no difference to the others.  So the first poll of a
consumer that listens moves each partition, and of the records that were there then, no more than
are to be read back are read. -/
theorem rewinds_each_alone {S T : Type} (r : Rewind) (c : Cursor S) (ps : List TopicPartition)
    (s : S) (w : Shared) :
    (∃ s' w', (Listener.rewind r).assigned c ps s w = (((), s'), w') ∧
      (Listener.rewind r).assigned c.noted ps (s, []) w = (((), s', r.calls c ps s w), w')) ∧
    (∃ ds : List Dealing, ds.map Dealing.partition = ps ∧
      r.calls c ps s w = ds.flatMap (Dealing.calls r) ∧
      ∀ ends seeks, c.Answers ends seeks → ds = ps.map fun p => ⟨p, ends p, seeks p⟩) ∧
    (∀ p offset answer, .seek p offset answer ∈ r.calls c ps s w → 0 ≤ offset) ∧
    (∀ (c' : Cursor T) q ends ends' seeks seeks', c.Answers ends seeks →
      c'.Answers ends' seeks' → (∀ p, p ≠ q → ends' p = ends p ∧ seeks' p = seeks p) →
      ∀ s' w', (r.calls c' ps s' w').filter (·.partition ≠ q) =
        (r.calls c ps s w).filter (·.partition ≠ q)) ∧
    ∀ (k : Consumer) (topic : String), k.closed = false →
      let subscription : Subscription := { topic, listener := some (.rewind r) }
      k.subscription = some subscription →
      (∃ positions w', k.PollsFrom subscription w positions w' ∧
        ∀ p end_ : Nat, w.broker.endOffset ⟨topic, p⟩ = .ok end_ → end_ ≤ maxOffset →
          (positions.getD p 0 : Int) = max 0 (end_ - r.depth : Int)) ∧
      ∀ (who : Nat) (cs : List Consumer) (ts : List Turn), cs[who]? = some k →
        (∀ t ∈ ts, t.ends who = false) →
        ∀ x ∈ (polls who cs w ts).head?, ∀ p end_ : Nat,
          x.before.broker.endOffset ⟨topic, p⟩ = .ok end_ →
          (((polls who cs w ts).flatMap Polled.records).filter fun y : Record =>
            y.partition = (p : Int) ∧ y.offset < (end_ : Int)).length ≤ r.depth := by
  have hreach : r.reach = min r.depth maxOffset := rfl
  obtain ⟨ds, hpartitions, hcalls, hanswers⟩ := r.exists_dealings c ps s w
  refine ⟨r.assigned_noted c ps s w, ⟨ds, hpartitions, hcalls, hanswers⟩, ?_, ?_, ?_⟩
  · intro p offset answer hmem
    rw [hcalls] at hmem
    obtain ⟨d, -, hd⟩ := List.mem_flatMap.mp hmem
    exact Dealing.nonneg_of_mem_calls hd
  · intro c' q ends ends' seeks seeks' h h' hq s' w'
    exact filter_calls_congr h h' hq r ps s s' w w'
  · intro k topic hopen subscription hs
    constructor
    · refine ⟨_, _, Consumer.pollsFrom_settled hopen hs w, fun p end_ hend hle => ?_⟩
      rw [getD_settled_rewind hend]
      omega
    · intro who cs ts hk hts x hx p end_ hend
      have hreads := polls_of_joined hk hopen hs rfl hts (w := w)
      have hle := hreads.length_filter_le hx hend
      omega

/-- The end of one partition is not known, another cannot be moved, and a third has too few
records. -/
def troubled (second : Option BrokerError) : List Scripted.Assignment :=
  [⟨⟨"t", 0⟩, .error .closed, none⟩, ⟨⟨"t", 1⟩, .ok 5, second⟩, ⟨⟨"t", 2⟩, .ok 2, none⟩,
    ⟨⟨"t", 3⟩, .ok 4, none⟩]

/-- A scripted cursor answers by what is assigned. -/
theorem scripted_answers (assignments : List Scripted.Assignment) :
    (Scripted.cursor 0 assignments).Answers
      (fun p => match Scripted.assignmentOf? assignments p with
        | some a => a.endOffset
        | none => .error (.invalidState (p.render ++ " is not assigned")))
      fun p _ => match (Scripted.assignmentOf? assignments p).bind (·.seekFailure) with
        | some cause => .error cause
        | none => .ok () :=
  ⟨fun _ _ _ => rfl, fun _ _ _ _ => rfl⟩

/-- What a seek of one partition comes to makes no difference to the calls about the others, and a
consumer reads back as many records as it is told to. -/
theorem rewinds_each_alone_of_troubled :
    let ps : List TopicPartition := [⟨"t", 0⟩, ⟨"t", 1⟩, ⟨"t", 2⟩, ⟨"t", 3⟩]
    let r : Rewind := ⟨3⟩
    let k : Consumer := { subscription := some { topic := "t", listener := some (.rewind r) } }
    let w : Shared := { broker := (({} : Broker).run (.appendMany "t" "k" 0 5 1)).2 }
    r.calls (Scripted.cursor 0 (troubled (some .closed))) ps () {} =
        [.endOffset ⟨"t", 0⟩ (.error .closed), .endOffset ⟨"t", 1⟩ (.ok 5),
          .seek ⟨"t", 1⟩ 2 (.error .closed), .endOffset ⟨"t", 2⟩ (.ok 2),
          .endOffset ⟨"t", 3⟩ (.ok 4), .seek ⟨"t", 3⟩ 1 (.ok ())] ∧
      (r.calls (Scripted.cursor 0 (troubled none)) ps () {}).filter (·.partition ≠ ⟨"t", 1⟩) =
        (r.calls (Scripted.cursor 0 (troubled (some .closed))) ps () {}).filter
          (·.partition ≠ ⟨"t", 1⟩) ∧
      ∃ positions w', k.PollsFrom { topic := "t", listener := some (.rewind r) } w positions w' ∧
        (positions.getD 0 0 : Int) = 2 := by
  intro ps r k w
  obtain ⟨-, -, -, halone, -⟩ := rewinds_each_alone (T := Unit) r
    (Scripted.cursor 0 (troubled (some .closed))) ps () {}
  refine ⟨by decide +kernel, ?_, ?_⟩
  · refine halone (Scripted.cursor 0 (troubled none)) ⟨"t", 1⟩ _ _ _ _ (scripted_answers _)
      (scripted_answers _) (fun p hp => ?_) () {}
    have hother (second : Option BrokerError) :
        Scripted.assignmentOf? (troubled second) p = Scripted.assignmentOf? (troubled none) p := by
      simp only [Scripted.assignmentOf?, troubled, List.find?_cons, decide_eq_false (Ne.symm hp)]
    rw [hother (some .closed)]
    exact ⟨rfl, rfl⟩
  · obtain ⟨-, -, -, -, hconsumer⟩ := rewinds_each_alone (T := Unit) r
      (Scripted.cursor 0 (troubled none)) ps () w
    obtain ⟨⟨positions, w', hpolls, hpositions⟩, -⟩ := hconsumer k "t" rfl rfl
    refine ⟨positions, w', hpolls, ?_⟩
    have hend : w.broker.endOffset ⟨"t", 0⟩ = .ok 5 := by decide +kernel
    rw [hpositions 0 5 hend (by decide)]
    rfl

end Rewind

end PositionLog
