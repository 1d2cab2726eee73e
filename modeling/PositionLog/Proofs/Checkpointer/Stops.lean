import PositionLog.Proofs.Checkpointer.Init
import PositionLog.Proofs.Replay.Stops

/-!
# What a stop costs

Several checkpointers share a loader that asks to stop with its `n`-th record.  Whoever of them is
restoring when it comes to that record loses what is left of the batch at hand, or of the replay.
Nobody loses anything after that, because the loader has seen that record once and for all.
-/

namespace PositionLog.Checkpointer

open Broker (Consumer Factory Producer)
open Replay (handed taken upTo)

variable {F P : Type}

/-- The checkpointer can read all of this topic back into the loader, with this consumer. -/
structure LoadsAll (l : Loader) (topic : String) (w : Shared) (s : Checkpointer F P Consumer Loader)
    (c : Consumer) : Prop extends s.CanRestore c l where
  topic_eq : s.topic = topic
  /-- No cache bounds what it reads back. -/
  unbounded : ∀ i, s.write.cache = some i → (w.caches.get i).capacity ≤ 0

section LoadsAll

variable {l : Loader} {topic : String} {s : Checkpointer F P Consumer Loader} {c c' : Consumer}
  {rs : List Record} {w w' : Shared}

theorem LoadsAll.depth_eq_zero (h : LoadsAll l topic w s c) : s.depth w = 0 := by
  cases hcache : s.write.cache with
  | none =>
    rw [depth, replayDepth, hcache]
    rfl
  | some i =>
    have hcapacity := h.unbounded i hcache
    rw [depth_of_cache hcache, RecencyCache.replayDepth, if_neg (by omega)]

/-- It can do so as long as records are given to the loader and nothing else is done. -/
theorem LoadsAll.of_took (h : LoadsAll l topic w s c) (htook : l.Took rs w w') :
    LoadsAll l topic w' s c where
  __ := h
  unbounded i hi := by
    rw [htook.capacity]
    exact h.unbounded i hi

end LoadsAll

variable [LogProducer P] {l : Loader} {n : Nat} {topic : String}

/-! ## One replay -/

/-- All records are read back but those that the stop leaves out, and the checkpointer can do it
again. -/
theorem restore_stopping (hstop : l.stopAt = some n) {s : Checkpointer F P Consumer Loader}
    {c : Consumer} {w : Shared} {j : Nat} (h : LoadsAll l topic w s c)
    (hcounter : l.counter < w.counters.size) (hcache : l.cache < w.caches.size)
    (hj : n - w.counters.get l.counter = j) :
    let rs := w.broker.allRecords topic
    let given := handed s.settings.halt c.maxPollRecords j rs
    ∃ c' w',
      restore s w =
        ((.ok ⟨(taken s.settings.halt j rs).length ⌈/⌉ c.maxPollRecords, given.length,
          decide (1 ≤ j ∧ j ≤ rs.length)⟩, { s with read := .apart c' l }), w') ∧
      l.Took given w w' ∧ c'.maxPollRecords = c.maxPollRecords ∧
      LoadsAll l topic w' { s with read := .apart c' l } c' := by
  intro rs given
  obtain rfl := h.topic_eq
  have htold := (Loader.took_told (l := l) (n := .subscribing s.topic (s.depth w)) rfl w).told
    (n := .loading s.topic) rfl
  have hjoined : (c.joined s.topic (s.depth w)).subscription =
      some { topic := s.topic, listener := none } := by
    rw [h.depth_eq_zero]
    rfl
  obtain ⟨positions, polls, w', hrun, htook⟩ := Replay.run_stopping hstop s.settings.pollTimeout
    s.settings.halt (w := w.withNotices (s.noticesBefore w)) (j := j)
    (s := { consumer := c.joined s.topic (s.depth w), deserializer := l, write := some s.write })
    h.opened hjoined h.stalledPolls_lt h.maxPollRecords_pos rfl hcounter hcache hj
  have hread : ((c.joined s.topic (s.depth w)).reading { topic := s.topic, listener := none }
      positions 0 polls).subscription =
        some ⟨s.topic, Broker.rewinding (s.depth w), some positions⟩ := by
    rw [h.depth_eq_zero]
    rfl
  have hrestore := restore_apply h.toCanRestore hrun h.opened hread
  have hall := (htold.trans htook).told (n := .loaded s.topic
    ((taken s.settings.halt j rs).length ⌈/⌉ c.maxPollRecords) given.length) rfl
  refine ⟨_, _, hrestore, hall, rfl, ?_⟩
  have hlater := h.of_took hall
  exact ⟨⟨h.not_stopped, rfl, h.opened, Nat.zero_lt_of_lt h.stalledPolls_lt,
    h.maxPollRecords_pos⟩, rfl, hlater.unbounded⟩

/-! ## One replay after another -/

/-- Each of several checkpointers restores when it is its turn. -/
def restoreInTurn {C D : Type} [LogConsumer C] [Deserializer D] (turns : List Nat) :
    Act (List (Checkpointer F P C D)) Unit :=
  turns.forM fun who => do
    let _ ← Act.member who restore.run

theorem restoreInTurn_cons {C D : Type} [LogConsumer C] [Deserializer D]
    {ss : List (Checkpointer F P C D)} {who : Nat} {s s' : Checkpointer F P C D}
    {w w' : Shared} {r : Except Error Replay.Summary} (hs : ss[who]? = some s)
    (h : restore s w = ((r, s'), w')) (turns : List Nat) :
    restoreInTurn (who :: turns) ss w = restoreInTurn turns (ss.set who s') w' := by
  refine Act.forM_cons_of_eq ?_ turns
  exact (Act.bind_of_eq (Act.member_of_some hs h)).trans rfl

/-- After any turns, each of the checkpointers can still do what it could, and the loader has seen
what it was given. -/
theorem restoreInTurn_stopping (hstop : l.stopAt = some n) {w : Shared}
    {ss : List (Checkpointer F P Consumer Loader)} (hcounter : l.counter < w.counters.size)
    (hcache : l.cache < w.caches.size) (h : ∀ s ∈ ss, ∃ c, LoadsAll l topic w s c)
    (turns : List Nat) :
    ∃ ss' w' given, restoreInTurn turns ss w = (((), ss'), w') ∧ l.Took given w w' ∧
      ∀ (who : Nat) (s : Checkpointer F P Consumer Loader) (c : Consumer),
        ss[who]? = some s → LoadsAll l topic w s c →
        ∃ c', ss'[who]? = some { s with read := .apart c' l } ∧
          c'.maxPollRecords = c.maxPollRecords ∧
          LoadsAll l topic w' { s with read := .apart c' l } c' := by
  induction turns generalizing ss w with
  | nil =>
    refine ⟨ss, w, [], rfl, .refl w, fun who s c hs hc => ⟨c, ?_, rfl, ?_⟩⟩
    · rw [hs, ← hc.read]
    · rwa [← hc.read]
  | cons first turns ih =>
    cases hfirst : ss[first]? with
    | none =>
      obtain ⟨ss', w', given, hrest, htook, hstays⟩ := ih hcounter hcache h
      refine ⟨ss', w', given, (Act.forM_cons_of_eq ?_ turns).trans hrest, htook, hstays⟩
      exact (Act.bind_of_eq (Act.member_of_none hfirst)).trans rfl
    | some s₀ =>
      obtain ⟨c₀, hc₀⟩ := h s₀ (List.mem_of_getElem? hfirst)
      obtain ⟨c₁, w₁, hrestore, htook, hmax, hc₁⟩ :=
        restore_stopping hstop hc₀ hcounter hcache rfl
      let s₁ : Checkpointer F P Consumer Loader := { s₀ with read := .apart c₁ l }
      have hmembers : ∀ s ∈ ss.set first s₁, ∃ c, LoadsAll l topic w₁ s c := by
        intro s hs
        rcases List.mem_or_eq_of_mem_set hs with hold | rfl
        · obtain ⟨c, hc⟩ := h s hold
          exact ⟨c, hc.of_took htook⟩
        · exact ⟨c₁, hc₁⟩
      obtain ⟨ss', w', given, hrest, htook', hstays⟩ := ih (htook.size_counters ▸ hcounter)
        (htook.size ▸ hcache) hmembers
      refine ⟨ss', w', _, (restoreInTurn_cons hfirst hrestore turns).trans hrest,
        htook.trans htook', fun who s c hs hc => ?_⟩
      by_cases hwho : who = first
      · subst hwho
        obtain rfl : s = s₀ := Option.some.inj (hs.symm.trans hfirst)
        obtain rfl : c = c₀ :=
          Option.some.inj (congrArg ReadPath.consumer (hc.read.symm.trans hc₀.read))
        have hs₁ : (ss.set who s₁)[who]? = some s₁ :=
          List.getElem?_set_self (List.getElem?_eq_some_iff.mp hs).1
        obtain ⟨c', hs', hmax', hc'⟩ := hstays who s₁ c₁ hs₁ hc₁
        exact ⟨c', hs', hmax'.trans hmax, hc'⟩
      · rw [← List.getElem?_set_ne (Ne.symm hwho)] at hs
        exact hstays who s c hs (hc.of_took htook)

/-! ## What a stop costs -/

/-- Several checkpointers with the same loader read a topic back that does not change.  The first
replay that skips batches hands over all records but those that stand behind the `n`-th in its own
batch; the first that may end early hands over the records up to the `n`-th.  Once `n` records were
seen, every later replay hands over all records, and asks for no stop. -/
theorem stop_costs_rest_of_batch (hstop : l.stopAt = some n) {w : Shared}
    {ss : List (Checkpointer F P Consumer Loader)} (hcounter : l.counter < w.counters.size)
    (hcache : l.cache < w.caches.size) (hnew : w.counters.get l.counter = 0)
    (h : ∀ s ∈ ss, ∃ c, LoadsAll l topic w s c) (turns : List Nat) {who limit : Nat}
    {s : Checkpointer F P Consumer Loader} {c : Consumer} (hs : ss[who]? = some s)
    (hc : s.read.consumer = some c) (hlimit : c.maxPollRecords = max 1 limit) :
    let rs := w.broker.allRecords topic
    let m := max 1 limit
    let T := w.broker.recordCount topic
    ∃ ss' w₁ seen s₁ s₂ w₂ sum given,
      restoreInTurn turns ss w = (((), ss'), w₁) ∧ l.Took seen w w₁ ∧
      ss'[who]? = some s₁ ∧ restore s₁ w₁ = ((.ok sum, s₂), w₂) ∧ l.Took given w₁ w₂ ∧
      sum.records = given.length ∧
      (turns = [] → sum.halted = decide (1 ≤ n ∧ n ≤ T)) ∧
      (turns = [] → s.settings.halt = .batch →
        given = (if n = 0 then rs else rs.take n ++ rs.drop (m * (n ⌈/⌉ m))) ∧
        given.length = (if n = 0 ∨ T < n then T else n + T - min T (m * (n ⌈/⌉ m))) ∧
        sum.batches = T ⌈/⌉ m) ∧
      (turns = [] → s.settings.halt = .replay →
        given = (if n = 0 then rs else rs.take n) ∧
        given.length = (if n = 0 then T else min n T)) ∧
      (n ≤ seen.length → given = rs ∧ sum = ⟨T ⌈/⌉ m, T, false⟩) := by
  intro rs m T
  obtain ⟨c₀, hc₀⟩ := h s (List.mem_of_getElem? hs)
  obtain rfl : c₀ = c := Option.some.inj ((congrArg ReadPath.consumer hc₀.read).symm.trans hc)
  obtain ⟨ss', w₁, seen, hturns, htook, hstays⟩ :=
    restoreInTurn_stopping hstop hcounter hcache h turns
  obtain ⟨c₁, hs₁, hmax, hc₁⟩ := hstays who s c₀ hs hc₀
  have hleft : n - w₁.counters.get l.counter = n - seen.length := by
    rw [htook.get_counter hcounter, hnew, Nat.zero_add]
  obtain ⟨c₂, w₂, hrestore, htook', -, -⟩ := restore_stopping hstop hc₁
    (htook.size_counters ▸ hcounter) (htook.size ▸ hcache) hleft
  have hT : rs.length = T := w.broker.length_allRecords topic
  rw [htook.broker, hmax, hlimit] at hrestore htook'
  have hfirst : turns = [] → n - seen.length = n := by
    rintro rfl
    obtain rfl : w = w₁ := congrArg (·.2) hturns
    have hcount := htook.get_counter hcounter
    omega
  refine ⟨ss', w₁, seen, _, _, w₂, _, _, hturns, htook, hs₁, hrestore, htook', rfl, ?_, ?_, ?_, ?_⟩
  · intro hnil
    rw [hfirst hnil, ← hT]
  · intro hnil hhalt
    rw [hfirst hnil, hhalt, ← hT]
    exact ⟨rfl, Replay.length_handed_batch (Nat.le_max_left 1 limit) n rs, rfl⟩
  · intro hnil hhalt
    rw [hfirst hnil, hhalt, ← hT]
    exact ⟨rfl, Replay.length_upTo n rs⟩
  · intro hseen
    rw [Nat.sub_eq_zero_of_le hseen, Replay.handed_zero, Replay.taken_zero, ← hT]
    exact ⟨rfl, rfl⟩

/-- Five records on two partitions, and loaders that have seen none of them. -/
def fiveRecords : Shared where
  broker := ["a", "b", "c", "d", "e"].foldl (fun b stream =>
    b.push "t" ⟨Position.key ⟨stream, 1⟩, Position.value ⟨stream, 1⟩⟩) (.withPartitions 2)
  caches := ⟨[.new 0]⟩
  counters := ⟨[0]⟩

/-- A checkpointer that was just initialized and reads two records at a time.  With the third one
it is asked to stop. -/
def stopping (halt : HaltScope) : Checkpointer Factory Producer Consumer Loader :=
  ready ⟨"t", 1, 1, halt, {}, {}⟩ { maxPollRecords := 2 } 0 none
    { cache := 0, counter := 0, stopAt := some 3 }

/-- The first one lacks the fourth record.  The other one has all of them then, though a stop would
end its replay. -/
theorem stop_costs_rest_of_batch_of_five :
    ∃ s₁ w₁ ss s₂ s₃ w₂,
      restore (stopping .batch) fiveRecords = ((.ok ⟨3, 4, true⟩, s₁), w₁) ∧
      restoreInTurn [0] [stopping .batch, stopping .replay] fiveRecords = (((), ss), w₁) ∧
      ss[1]? = some s₂ ∧ restore s₂ w₁ = ((.ok ⟨3, 5, false⟩, s₃), w₂) := by
  have hT : fiveRecords.broker.recordCount "t" = 5 := by decide +kernel
  have hall : ∀ s ∈ [stopping .batch, stopping .replay],
      ∃ c, LoadsAll { cache := 0, counter := 0, stopAt := some 3 } "t" fiveRecords s c := by
    intro s hs
    rcases List.mem_pair.mp hs with rfl | rfl
    all_goals exact ⟨_, canRestore_ready _ 0 none _ Nat.one_pos, rfl, nofun⟩
  have hzero : [stopping .batch, stopping .replay][0]? = some (stopping .batch) := rfl
  have hone : [stopping .batch, stopping .replay][1]? = some (stopping .replay) := rfl
  obtain ⟨_, _, _, _, s₁, w₁, sum₁, given, hnone, -, hs, hfirst, htook, hrecords, hhalted, hskips,
    -, -⟩ := stop_costs_rest_of_batch rfl (w := fiveRecords) Nat.one_pos Nat.one_pos rfl hall []
      hzero rfl rfl
  cases hnone
  cases hs
  obtain ⟨-, hgiven, hbatches⟩ := hskips rfl rfl
  rw [hT] at hhalted hgiven hbatches
  have hfour : given.length = 4 := hgiven.trans (by decide)
  have hsum₁ : sum₁ = ⟨3, 4, true⟩ := by
    change (⟨sum₁.batches, sum₁.records, sum₁.halted⟩ : Replay.Summary) = _
    rw [hbatches, hrecords, hfour, hhalted rfl]
    decide
  obtain ⟨ss, _, seen, s₂, s₃, w₂, sum₂, _, hturns, hseen, hs₂, hthen, -, -, -, -, -, hlater⟩ :=
    stop_costs_rest_of_batch rfl (w := fiveRecords) Nat.one_pos Nat.one_pos rfl hall [0] hone rfl
      rfl
  obtain rfl : w₁ = _ := congrArg (·.2) ((restoreInTurn_cons hzero hfirst []).symm.trans hturns)
  have hseen : seen.length = given.length :=
    Nat.add_left_cancel ((hseen.get_counter Nat.one_pos).symm.trans (htook.get_counter Nat.one_pos))
  have hsum₂ : sum₂ = ⟨3, 5, false⟩ := by
    rw [(hlater (by omega)).2, hT]
    decide
  exact ⟨s₁, w₁, ss, s₂, s₃, w₂, hsum₁ ▸ hfirst, hturns, hs₂, hsum₂ ▸ hthen⟩

end PositionLog.Checkpointer
