import PositionLog.Proofs.Broker.Turns

/-!
# What a subscription reads

From the first poll on, a subscription has read a stretch of each partition, from where the listener
sought, and each poll goes on where the ones before it ended.  Neither a growing log nor a stalled
poll nor another consumer changes this.
-/

namespace PositionLog.Broker

/-- What is shared after the listener, if there is one, was given the partitions. -/
def Subscription.assigned (s : Subscription) (w : Shared) : Shared :=
  match s.listener with
  | none => w
  | some l => (l.assigned cursor (w.broker.partitionsOf s.topic) {} w).2

/-- The assignment runs the listener, if there was none before. -/
theorem Subscription.assign_snd (topic : String) (listener : Option Listener) (w : Shared) :
    (assign { topic, listener } w).2 = assigned { topic, listener } w := by
  unfold assign assigned
  cases listener with
  | none => rfl
  | some l => simp only [Shared.bind_apply, Shared.get_apply, Shared.pure_apply, StateT.run]

/-- Whether a consumer leaves its topic, or joins one anew. -/
def Ask.leaves : Ask → Bool
  | subscribe .. | unsubscribe | close => true
  | poll | stall _ => false

/-- Whether the subscription of a consumer ends with this turn. -/
def Turn.ends (who : Nat) : Turn → Bool
  | broker _ => false
  | consumer i a => i = who && a.leaves

namespace Polled

/-- The records that a poll found. -/
def records (x : Polled) : List Record :=
  match x.answer with
  | .ok batch => batch
  | .error _ => []

/-- The poll was answered by so many records or fewer, and by none if it was stalled. -/
structure Fine (limit : Nat) (x : Polled) : Prop where
  answer : x.answer = .ok x.records
  length_le : x.records.length ≤ limit
  stalled : x.stalled = true → x.records = []

end Polled

/-- These polls of a subscription told the listener once, and read each partition once and in
order, from where the listener sought. -/
structure ReadsOnce (s : Subscription) (limit : Nat) (xs : List Polled) (b : Broker) : Prop where
  fine : ∀ x ∈ xs, x.Fine limit
  /-- The listener is told before the first poll reads, even if that is stalled. -/
  first : ∀ x ∈ xs.head?, x.after = s.assigned x.before
  later : ∀ x ∈ xs.tail, x.after = x.before
  partition : ∀ r ∈ xs.flatMap Polled.records, ∃ p < b.partitions, r.partition = p
  inOrder : ∀ x ∈ xs.head?, ∀ p < b.partitions, ∀ i r,
    ((xs.flatMap Polled.records).filter (Record.isIn p))[i]? = some r →
      let offset := (x.before.broker.lastSeek? p (s.seeks x.before.broker)).getD 0 + i
      ∃ e, (b.entries s.topic p).get? offset = some e ∧ r = ⟨p, offset, e.key, e.value⟩

theorem readsOnce_nil (s : Subscription) (limit : Nat) (b : Broker) : ReadsOnce s limit [] b where
  fine _ hx := absurd hx List.not_mem_nil
  first x hx := absurd hx (Option.not_mem_none x)
  later _ hx := absurd hx List.not_mem_nil
  partition _ hr := absurd hr List.not_mem_nil
  inOrder x hx := absurd hx (Option.not_mem_none x)

/-- What was read of a partition is there, one record after the other. -/
theorem ReadFrom.exists_entry {b : Broker} {topic : String} {start : Nat → Nat} {rs : List Record}
    (h : b.ReadFrom topic start rs) {p : Nat} (hp : p < b.partitions) {i : Nat} {r : Record}
    (hr : (rs.filter (Record.isIn p))[i]? = some r) :
    ∃ e, (b.entries topic p).get? (start p + i) = some e ∧
      r = ⟨p, (start p + i : Nat), e.key, e.value⟩ := by
  obtain ⟨rest, hrest⟩ := h.inOrder p hp
  have hlt := (List.getElem?_eq_some_iff.mp hr).1
  have hread : (b.records topic p)[start p + i]? = some r := by
    rw [← List.getElem?_drop, ← hrest, List.getElem?_append_left hlt, hr]
  rw [records, List.getElem?_map, List.getElem?_zipIdx, Log.getElem?_toList] at hread
  cases he : (b.entries topic p).get? (start p + i) with
  | none =>
    rw [he] at hread
    cases hread
  | some e =>
    rw [he] at hread
    refine ⟨e, rfl, ?_⟩
    rw [← Option.some.inj hread, Nat.zero_add]
    rfl

/-! ## One poll -/

/-- A poll goes on where the ones before it ended. -/
theorem Consumer.poll_spec {c : Consumer} {s : Subscription} (hopen : c.closed = false)
    (hs : c.subscription = some s) (w : Shared) :
    ∃ batch positions, poll c w =
        ((.ok batch, c.reading s positions (c.stalledPolls - 1) (c.polls + 1)), (s.assign w).2) ∧
      (s.assign w).2.broker = w.broker ∧ batch.length ≤ c.maxPollRecords ∧
      (0 < c.stalledPolls → batch = []) ∧
      ∀ start rs, w.broker.ReadFrom s.topic start rs →
        w.broker.ReadUpTo start rs (s.settled w.broker) →
        w.broker.ReadFrom s.topic start (rs ++ batch) ∧
        w.broker.ReadUpTo start (rs ++ batch) positions := by
  obtain ⟨w', ha, hbroker⟩ := s.assign_apply w
  rw [ha]
  cases hk : c.stalledPolls with
  | succ k =>
    refine ⟨[], s.settled w.broker, poll_of_stalled hopen hs ha hk, hbroker, Nat.zero_le _,
      fun _ => rfl, fun start rs hread hup => ?_⟩
    rw [List.append_nil]
    exact ⟨hread, hup⟩
  | zero =>
    obtain ⟨positions, hpoll, hmoved, -⟩ := poll_of_not_stalled hopen hs ha hk
    rw [hbroker] at hpoll hmoved
    refine ⟨_, positions, hpoll, hbroker, List.length_take_le _ _,
      fun h => absurd h (Nat.lt_irrefl 0), fun start rs hread hup => ⟨?_, hup.append_batch hmoved⟩⟩
    exact hread.append_batch hup _

/-! ## One turn -/

section Turns

variable {who : Nat} {cs : List Consumer} {w : Shared} {c : Consumer}

/-- While a subscription lasts, its consumer is polled or told to stall, or the turn is of somebody
else. -/
theorem Turn.run_of_not_ends (hc : cs[who]? = some c) {t : Turn} (ht : t.ends who = false) :
    t = consumer who .poll ∨
      t.polled? who cs w = none ∧ (∃ k, (t.run cs w).1.2[who]? = some (c.stall k)) ∧
        ∀ topic, w.broker.Extends (t.run cs w).2.broker topic := by
  cases t with
  | broker command =>
    exact .inr ⟨rfl, ⟨c.stalledPolls, hc⟩, fun topic => w.broker.extends_run topic command⟩
  | consumer i a =>
    by_cases hi : i = who
    · subst hi
      have hstays : a.leaves = false := by
        rw [ends, decide_eq_true rfl, Bool.true_and] at ht
        exact ht
      cases a with
      | poll => exact .inl rfl
      | stall polls =>
        have hlt := (List.getElem?_eq_some_iff.mp hc).1
        refine .inr ⟨rfl, ⟨polls, ?_⟩, fun topic => ?_⟩
        · rw [run_consumer, Act.member_of_some hc rfl]
          exact List.getElem?_set_self hlt
        · rw [run_consumer, Act.member_of_some hc rfl]
          exact .refl _ _
      | _ => exact absurd hstays Bool.true_eq_false.mp
    · have hother : (consumer i a).concerns who = false := decide_eq_false hi
      obtain ⟨n, hn⟩ := broker_member i a cs w
      refine .inr ⟨polled?_of_other hother, ⟨c.stalledPolls, ?_⟩, fun topic => ?_⟩
      · exact (Act.getElem?_member_of_ne (Ne.symm hi)).trans hc
      · rw [run_consumer, hn]
        exact (w.broker.sameLogs_withCounts n).extends topic

/-! ## All turns -/

/-- Where a subscription is after its first poll: these records were read, from `start` on. -/
structure Follows (topic : String) (limit : Nat) (start : Nat → Nat) (rs : List Record)
    (c : Consumer) (b : Broker) : Prop where
  opened : c.closed = false
  limit : c.maxPollRecords = limit
  readFrom : b.ReadFrom topic start rs
  upTo : ∃ listener positions, c.subscription = some ⟨topic, listener, some positions⟩ ∧
    b.ReadUpTo start rs positions

variable {topic : String} {listener : Option Listener} {limit : Nat} {start : Nat → Nat}
  {rs : List Record}

/-- Neither stalls nor a growing log change what was read. -/
theorem Follows.stall {b b' : Broker} (h : Follows topic limit start rs c b) (k : Nat)
    (hext : b.Extends b' topic) : Follows topic limit start rs (c.stall k) b' := by
  obtain ⟨listener, positions, hs, hup⟩ := h.upTo
  exact ⟨h.opened, h.limit, h.readFrom.extends hext, listener, positions, hs, hup.extends hext⟩

/-- A poll is fine, and more was read after it. -/
theorem polls_cons_poll {s : Subscription} (hc : cs[who]? = some c) (hopen : c.closed = false)
    (hs : c.subscription = some s) (hlimit : c.maxPollRecords = limit) (w : Shared) :
    ∃ x cs' c', (Turn.consumer who .poll).run cs w = (((), cs'), x.after) ∧
      (∀ ts, polls who cs w (.consumer who .poll :: ts) = x :: polls who cs' x.after ts) ∧
      x.before = w ∧ x.after = (s.assign w).2 ∧ x.Fine limit ∧ cs'[who]? = some c' ∧
      ∀ start rs, w.broker.ReadFrom s.topic start rs →
        w.broker.ReadUpTo start rs (s.settled w.broker) →
        Follows s.topic limit start (rs ++ x.records) c' x.after.broker := by
  obtain ⟨batch, positions, hpoll, hbroker, hle, hstalled, hread⟩ :=
    Consumer.poll_spec hopen hs w
  have hlt := (List.getElem?_eq_some_iff.mp hc).1
  let c' := c.reading s positions (c.stalledPolls - 1) (c.polls + 1)
  have hmember : Ask.poll.run.member who cs w =
      ((some (.ok batch), cs.set who c'), (s.assign w).2) :=
    Act.member_of_some hc hpoll
  refine ⟨⟨w, 0 < c.stalledPolls, .ok batch, (s.assign w).2⟩, _, c', ?_, fun ts => ?_, rfl, rfl,
    ⟨rfl, hlimit ▸ hle, fun h => hstalled (of_decide_eq_true h)⟩, List.getElem?_set_self hlt,
    fun start rs hfrom hup => ?_⟩
  · rw [Turn.run_consumer, hmember]
  · rw [polls, Turn.polled?, if_pos rfl, hc, Turn.run_consumer, hmember, Option.map_some, hpoll]
    rfl
  · obtain ⟨hfrom', hup'⟩ := hread start rs hfrom hup
    rw [← hbroker] at hfrom' hup'
    exact ⟨hopen, hlimit, hfrom', s.listener, positions, rfl, hup'⟩

/-- After the first poll, the listener is not told anything more. -/
theorem Follows.run (hc : cs[who]? = some c) (h : Follows topic limit start rs c w.broker)
    {ts : List Turn} (hts : ∀ t ∈ ts, t.ends who = false) :
    (∀ x ∈ polls who cs w ts, x.Fine limit ∧ x.after = x.before) ∧
      (ts.forM Turn.run cs w).2.broker.ReadFrom topic start
        (rs ++ (polls who cs w ts).flatMap Polled.records) := by
  induction ts generalizing cs w c rs with
  | nil =>
    rw [polls, List.flatMap_nil, List.append_nil]
    exact ⟨fun _ hx => absurd hx List.not_mem_nil, h.readFrom⟩
  | cons t ts ih =>
    have hlater : ∀ t ∈ ts, t.ends who = false := fun t ht => hts t (List.mem_cons_of_mem _ ht)
    rcases Turn.run_of_not_ends hc (hts t List.mem_cons_self) with rfl | ⟨hnone, ⟨k, hk⟩, hext⟩
    · obtain ⟨listener, positions, hs, hup⟩ := h.upTo
      obtain ⟨x, cs', c', hrun, hpolls, hbefore, hafter, hfine, hc', hread⟩ :=
        polls_cons_poll hc h.opened hs h.limit w
      obtain ⟨hall, hfrom⟩ := ih hc' (hread start rs h.readFrom hup) hlater
      rw [hpolls, List.flatMap_cons, ← List.append_assoc, Act.forM_cons_of_eq hrun]
      refine ⟨fun y hy => ?_, hfrom⟩
      rcases List.mem_cons.mp hy with rfl | hy
      · exact ⟨hfine, hafter.trans hbefore.symm⟩
      · exact hall y hy
    · have hrest := ih hk (h.stall k (hext topic)) hlater
      have hrun : t.run cs w = (((), (t.run cs w).1.2), (t.run cs w).2) := rfl
      rw [polls, hnone, Act.forM_cons_of_eq hrun]
      exact hrest

/-- Until the first poll, nothing is read and the listener is not told anything. -/
theorem polls_of_joined (hc : cs[who]? = some c) (hopen : c.closed = false)
    (hs : c.subscription = some { topic, listener }) (hlimit : c.maxPollRecords = limit)
    {ts : List Turn} (hts : ∀ t ∈ ts, t.ends who = false) :
    ReadsOnce { topic, listener } limit (polls who cs w ts) (ts.forM Turn.run cs w).2.broker := by
  induction ts generalizing cs w c with
  | nil =>
    rw [polls]
    exact readsOnce_nil _ limit _
  | cons t ts ih =>
    have hlater : ∀ t ∈ ts, t.ends who = false := fun t ht => hts t (List.mem_cons_of_mem _ ht)
    rcases Turn.run_of_not_ends hc (hts t List.mem_cons_self) with rfl | ⟨hnone, ⟨k, hk⟩, -⟩
    · obtain ⟨x, cs', c', hrun, hpolls, rfl, hafter, hfine, hc', hread⟩ :=
        polls_cons_poll hc hopen hs hlimit w
      have hfollows := hread (Subscription.start { topic, listener } x.before.broker) []
        (x.before.broker.readFrom_nil _ _) fun p _ => Subscription.getD_settled _ _ p
      obtain ⟨hall, hfrom⟩ := hfollows.run hc' hlater
      rw [List.nil_append, ← List.flatMap_cons] at hfrom
      rw [hpolls, Act.forM_cons_of_eq hrun]
      refine ⟨?_, ?_, fun y hy => (hall y hy).2, hfrom.partition, ?_⟩
      · intro y hy
        rcases List.mem_cons.mp hy with rfl | hy
        · exact hfine
        · exact (hall y hy).1
      · rintro y ⟨⟩
        exact hafter.trans (Subscription.assign_snd topic listener _)
      · rintro y ⟨⟩ p hp i r hr
        exact hfrom.exists_entry hp hr
    · have hrun : t.run cs w = (((), (t.run cs w).1.2), (t.run cs w).2) := rfl
      rw [polls, hnone, Act.forM_cons_of_eq hrun]
      exact ih hk hopen hs hlimit hlater

/-- A subscription, whatever else happens while it lasts: it tells its listener once, and reads each
partition once and in order, from where the listener sought.  It would read the same if there were
no other consumers. -/
theorem subscription_reads_once (hc : cs[who]? = some c) (hopen : c.closed = false) (topic : String)
    (listener : Option Listener) {ts : List Turn} (hts : ∀ t ∈ ts, t.ends who = false)
    (w : Shared) :
    let turns := .consumer who (.subscribe topic listener) :: ts
    ReadsOnce { topic, listener } c.maxPollRecords (polls who cs w turns)
      (turns.forM Turn.run cs w).2.broker ∧
    (polls who cs w turns).map Polled.outcome =
      (polls who cs w (turns.filter (Turn.concerns who))).map Polled.outcome := by
  have hlt := (List.getElem?_eq_some_iff.mp hc).1
  let c' : Consumer := { c with
    subscription := some { topic, listener }
    subscribeCalls := c.subscribeCalls + 1 }
  have hjoin : (Ask.subscribe topic listener).run c w = ((.ok [], c'), w) := by
    simp [Ask.run, Consumer.subscribe, hopen, c', Except.map]
  have hrun : (Turn.consumer who (.subscribe topic listener)).run cs w =
      (((), cs.set who c'), w) := by
    rw [Turn.run_consumer, Act.member_of_some hc hjoin]
  refine ⟨?_, (Alike.refl who cs w).polls_filter _⟩
  rw [Act.forM_cons_of_eq hrun, polls, hrun]
  have hc' : (cs.set who c')[who]? = some c' := List.getElem?_set_self hlt
  exact polls_of_joined hc' hopen rfl rfl hts

/-- A listener that seeks past the first record, and once in vain. -/
def seeking : Listener := .probe [.seek ⟨"t", 0⟩ 1, .seek ⟨"t", 0⟩ (-1)]

/-- What happens while it listens: records are added, its first poll is stalled, and another
consumer reads. -/
def meanwhile : List Turn :=
  [.broker (.append "t" [97] [1]), .consumer 0 (.stall 1), .consumer 0 .poll,
    .consumer 1 (.subscribe "t" none), .broker (.append "t" [98] [2]), .consumer 1 .poll,
    .consumer 0 .poll, .broker (.append "t" [99] [3]), .consumer 0 .poll]

theorem subscription_reads_once_of_seeking :
    let turns := .consumer 0 (.subscribe "t" (some seeking)) :: meanwhile
    ReadsOnce { topic := "t", listener := some seeking } 1
        (polls 0 [{ maxPollRecords := 1 }, {}] {} turns)
        (turns.forM Turn.run [{ maxPollRecords := 1 }, {}] {}).2.broker ∧
      (polls 0 [{ maxPollRecords := 1 }, {}] {} turns).map Polled.outcome =
        [(true, .ok []), (false, .ok [⟨0, 1, [98], [2]⟩]), (false, .ok [⟨0, 2, [99], [3]⟩])] := by
  have hc : ([{ maxPollRecords := 1 }, {}] : List Consumer)[0]? =
    some { maxPollRecords := 1 } := rfl
  have hts : ∀ t ∈ meanwhile, t.ends 0 = false := by decide
  obtain ⟨hreads, -⟩ := subscription_reads_once hc rfl "t" (some seeking) hts {}
  refine ⟨hreads, ?_⟩
  decide +kernel

end Turns

end PositionLog.Broker
