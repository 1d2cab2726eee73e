import PositionLog.Proofs.Broker.Subscription

/-!
# What a seek reaches

The cursor of an assignment refuses a partition that there is not, and an offset that is negative,
but it does not look at the topic.  So a seek in another topic moves the assigned partition of the
same number.  A listener that seeks in its own topic only moves exactly what it names.
-/

namespace PositionLog.Broker

/-- A subscription whose listener gives these commands to the cursor. -/
def probing (topic : String) (commands : List CursorCommand) : Subscription :=
  { topic, listener := some (.probe commands) }

/-- Where the last seek to exactly this partition went, of those that succeeded. -/
def lastSeekTo? (b : Broker) (p : TopicPartition) (seeks : List (TopicPartition × Int)) :
    Option Nat :=
  (seeks.filter fun x => b.answerSeek x.1 x.2 = .ok () ∧ x.1 = p).getLast?.map fun x => x.2.toNat

/-- The seeks of a listener reach the partitions that it was given, and no others. -/
structure SeeksOwn (b : Broker) (topic : String) (commands : List CursorCommand) : Prop where
  answered : ∀ p offset, .seek p offset ∈ commands →
    (b.answerSeek p offset = .ok () ↔
      p.topic = topic ∧ 0 ≤ p.partition ∧ p.partition < b.partitions ∧ 0 ≤ offset)
  start : ∀ p < b.partitions, (probing topic commands).start b p =
    (b.lastSeekTo? ⟨topic, p⟩ (commands.filterMap CursorCommand.seek?)).getD 0

section Commands

variable {b : Broker} {topic : String} {commands : List CursorCommand}

theorem mem_seeks {p : TopicPartition} {offset : Int} :
    (p, offset) ∈ commands.filterMap CursorCommand.seek? ↔ .seek p offset ∈ commands := by
  rw [List.mem_filterMap]
  constructor
  · rintro ⟨command, hmem, hseek⟩
    cases command with
    | endOffset q => cases hseek
    | seek q offset' =>
      cases hseek
      exact hmem
  · exact fun hmem => ⟨_, hmem, rfl⟩

/-- If no other topic is named, a partition is as good as its number. -/
theorem lastSeek?_eq_lastSeekTo? {seeks : List (TopicPartition × Int)}
    (h : ∀ x ∈ seeks, b.Allows x → x.1.topic = topic) (p : Nat) :
    b.lastSeek? p seeks = b.lastSeekTo? ⟨topic, p⟩ seeks := by
  rw [lastSeek?, lastSeekTo?]
  congr 2
  refine List.filter_congr fun x hx => decide_eq_decide.mpr ?_
  rw [answerSeek_eq_ok_iff]
  refine and_congr_right fun ha => ⟨fun hp => ?_, fun hp => hp ▸ rfl⟩
  rw [← h x hx ha, ← hp]

/-- A listener reaches exactly what it names if it names no other topic, and only then. -/
theorem seeksOwn_iff :
    b.SeeksOwn topic commands ↔
      ∀ p offset, .seek p offset ∈ commands → b.Allows (p, offset) → p.topic = topic := by
  constructor
  · intro h p offset hmem ha
    exact ((h.answered p offset hmem).mp (answerSeek_eq_ok_iff.mpr ha)).1
  · intro h
    refine ⟨fun p offset hmem => answerSeek_eq_ok_iff.trans ?_, fun p _ => ?_⟩
    · constructor
      · intro ha
        exact ⟨h p offset hmem ha, ha.2.1, ha.2.2, ha.1⟩
      · rintro ⟨-, hnonneg, hlt, hoffset⟩
        exact ⟨hoffset, hnonneg, hlt⟩
    · change (b.lastSeek? p (commands.filterMap CursorCommand.seek?)).getD 0 = _
      rw [lastSeek?_eq_lastSeekTo? fun x hx => h x.1 x.2 (mem_seeks.mp hx)]

/-- The listener is told its partitions, and then sees one answer to each command. -/
theorem assigned_probing (topic : String) (commands : List CursorCommand) (w : Shared) :
    ((probing topic commands).assigned w).broker = w.broker ∧
      ((probing topic commands).assigned w).observations.toList =
        w.observations.toList ++
          .assigned (w.broker.partitionsOf topic) :: commands.map w.broker.seen := by
  let told : Shared := { w with
    observations := w.observations.push (.assigned (w.broker.partitionsOf topic)) }
  obtain ⟨w', hrun, hbroker, hseen⟩ := forM_run_apply told {} commands
  have hassigned : (probing topic commands).assigned w = w' :=
    congrArg (fun x : (Unit × Slots Nat) × Shared => x.2) hrun
  rw [hassigned]
  refine ⟨hbroker, hseen.trans ?_⟩
  rw [Log.toList_push, List.append_assoc]
  rfl

end Commands

/-- What a listener seeks, it seeks by the number of a partition: a seek succeeds if there is such a
partition and the offset is not negative, and what else it asks for moves nothing.  From its first
poll on, a consumer reads each partition from where the last of these seeks went.  If all of them
are in the topic of the subscription, they reach the partitions that they name, and if not, this is
not so. -/
theorem seeks_by_number {who : Nat} {cs : List Consumer} {c : Consumer} {topic : String}
    {commands : List CursorCommand} (hc : cs[who]? = some c) (hopen : c.closed = false)
    (hs : c.subscription = some (probing topic commands)) {ts : List Turn}
    (hts : ∀ t ∈ ts, t.ends who = false) (w : Shared) :
    (∀ (w' : Shared) (positions : Slots Nat) (p : TopicPartition) (offset : Int),
      (w'.broker.answerSeek p offset = .ok () ↔
        0 ≤ p.partition ∧ p.partition < w'.broker.partitions ∧ 0 ≤ offset) ∧
      cursor.seek p offset positions w' =
        ((w'.broker.answerSeek p offset,
          if w'.broker.answerSeek p offset = .ok () then
            positions.set p.partition.toNat offset.toNat
          else positions), w') ∧
      (cursor.endOffset p positions w').1.2 = positions) ∧
    (((probing topic commands).assigned w).broker = w.broker ∧
      ((probing topic commands).assigned w).observations.toList =
        w.observations.toList ++
          .assigned (w.broker.partitionsOf topic) :: commands.map w.broker.seen) ∧
    (∃ positions, c.PollsFrom (probing topic commands) w positions
        ((probing topic commands).assigned w) ∧
      ∀ p < w.broker.partitions,
        positions.getD p 0 = (probing topic commands).start w.broker p) ∧
    ReadsOnce (probing topic commands) c.maxPollRecords (polls who cs w ts)
      (ts.forM Turn.run cs w).2.broker ∧
    (w.broker.SeeksOwn topic commands ↔
      ∀ p offset, .seek p offset ∈ commands → w.broker.answerSeek p offset = .ok () →
        p.topic = topic) := by
  refine ⟨fun w' positions p offset => ⟨?_, ?_, rfl⟩, assigned_probing topic commands w,
    ⟨_, ?_, fun p _ => Subscription.getD_settled _ _ p⟩,
    polls_of_joined hc hopen hs rfl hts, ?_⟩
  · rw [answerSeek_eq_ok_iff]
    exact ⟨fun ⟨hoffset, hnonneg, hlt⟩ => ⟨hnonneg, hlt, hoffset⟩,
      fun ⟨hnonneg, hlt, hoffset⟩ => ⟨hoffset, hnonneg, hlt⟩⟩
  · rw [cursor_seek_apply, seek]
    simp only [answerSeek_eq_ok_iff]
  · have hpolls := Consumer.pollsFrom_settled hopen hs w
    rw [probing, Subscription.assign_snd] at hpolls
    exact hpolls
  · simp only [answerSeek_eq_ok_iff]
    exact seeksOwn_iff

/-- What is shared after two records were added to a topic. -/
def withTwoRecords (w : Shared) : Shared :=
  { w with broker := (w.broker.push "t" ⟨[97], [1]⟩).push "t" ⟨[98], [2]⟩ }

theorem seeks_by_number_of_own_topic :
    let w := withTwoRecords {}
    let commands : List CursorCommand :=
      [.endOffset ⟨"u", 7⟩, .seek ⟨"t", 0⟩ 1, .seek ⟨"t", 0⟩ (-1), .seek ⟨"u", 1⟩ 0]
    let cs : List Consumer := [{ subscription := some (probing "t" commands) }]
    w.broker.SeeksOwn "t" commands ∧
      ReadsOnce (probing "t" commands) 500 (polls 0 cs w [.consumer 0 .poll]) w.broker ∧
      (polls 0 cs w [.consumer 0 .poll]).map (·.answer) = [.ok [⟨0, 1, [98], [2]⟩]] := by
  intro w commands cs
  have hc : cs[0]? = some { subscription := some (probing "t" commands) } := rfl
  have hts : ∀ t ∈ [Turn.consumer 0 .poll], t.ends 0 = false := by decide
  obtain ⟨-, -, -, hreads, hown⟩ := seeks_by_number hc rfl rfl hts w
  refine ⟨hown.mpr fun p offset hmem hok => ?_, hreads, by decide +kernel⟩
  have hall : ∀ x ∈ commands.filterMap CursorCommand.seek?,
      w.broker.answerSeek x.1 x.2 = .ok () → x.1.topic = "t" := by decide +kernel
  exact hall (p, offset) (mem_seeks.mpr hmem) hok

/-- A seek in another topic is not refused, and the consumer misses a record. -/
theorem seek_in_another_topic :
    let w := withTwoRecords {}
    let commands : List CursorCommand := [.seek ⟨"u", 0⟩ 1]
    let c : Consumer := { subscription := some (probing "t" commands) }
    w.broker.answerSeek ⟨"u", 0⟩ 1 = .ok () ∧ ¬ w.broker.SeeksOwn "t" commands ∧
      w.broker.lastSeekTo? ⟨"t", 0⟩ (commands.filterMap CursorCommand.seek?) = none ∧
      (Consumer.poll c w).1.1 = .ok [⟨0, 1, [98], [2]⟩] ∧
      (Consumer.poll c w).2.observations.toList =
        [.assigned [⟨"t", 0⟩], .seekAnswered (.ok ())] := by
  intro w commands c
  have hok : w.broker.answerSeek ⟨"u", 0⟩ 1 = .ok () := by decide +kernel
  refine ⟨hok, fun hown => ?_, by decide +kernel, by decide +kernel, by decide +kernel⟩
  have htopic := ((hown.answered ⟨"u", 0⟩ 1 List.mem_cons_self).mp hok).1
  exact absurd htopic (by decide)

end PositionLog.Broker
