import PositionLog.Proofs.Checkpointer.Lifecycle
import PositionLog.Proofs.History
import PositionLog.Proofs.Recovery.Basic

/-!
# Where positions end up

Several checkpointers publish on one topic, in any order.  Meanwhile the broker comes and goes, the
queues fill and empty, and the checkpointers are initialized, started and stopped, or have their
producers closed.  Every position is accounted for: it is on the log if the broker took it, among
the losses of its writer if it was refused, and in the cache unless its publisher was turned away.
-/

namespace PositionLog

open Broker (Consumer Factory Producer)

/-! ## What is noted -/

/-- The writer of a checkpointer, and the cache in which it mirrors. -/
structure Outlet where
  writer : Writer
  cache : Option Nat

def Checkpointer.outlet {F P C D : Type} (s : Checkpointer F P C D) : Outlet :=
  ⟨s.write.writer, s.write.cache⟩

/-- What is noted of a run. -/
inductive Happening where
  /-- A position that was to be published, what it met, and what was answered. -/
  | updated (who : Nat) (p : Position) (r : Reception) (answer : Except Error Unit)
  /-- The losses of a checkpointer were forgotten. -/
  | cleared (who : Nat)
deriving DecidableEq

namespace Happening

/-- The position that the broker took. -/
def taken? : Happening → Option Position
  | updated _ p r _ => if r = .taken then some p else none
  | cleared _ => none

/-- What a checkpointer lost of its topic. -/
def loss? (topic : String) (who : Nat) : Happening → Option Loss
  | updated i p r _ => if i = who then r.loss? topic p.key else none
  | cleared _ => none

/-- Whether the losses of a checkpointer were forgotten. -/
def clears (who : Nat) : Happening → Bool
  | updated .. => false
  | cleared i => i = who

/-- What was answered is what the position met. -/
def Told : Happening → Prop
  | updated _ _ r answer => answer = r.result
  | cleared _ => True

/-- The position that a cache was given.  Who was turned away did not mirror it. -/
def mirrored? (xs : List Outlet) (j : Nat) : Happening → Option Position
  | updated who p _ answer =>
    if xs[who]?.bind Outlet.cache = some j ∧ answer ≠ .error .stopped ∧
        answer ≠ .error .notInitialized then some p
    else none
  | cleared _ => none

end Happening

/-- What a checkpointer lost since that was last forgotten. -/
def lostSince (topic : String) (who : Nat) (hist : List Happening) : List Loss :=
  History.left (Happening.clears who) (Happening.loss? topic who) hist

section LostSince

variable (topic : String) (i : Nat) (hist : List Happening) (who : Nat)

theorem lostSince_updated (p : Position) (r : Reception) (answer : Except Error Unit) :
    lostSince topic i (hist ++ [.updated who p r answer]) =
      lostSince topic i hist ++ if who = i then (r.loss? topic p.key).toList else [] := by
  rw [lostSince, History.left_append_singleton]
  apply (if_neg Bool.false_ne_true).trans
  change _ ++ (if who = i then r.loss? topic p.key else none).toList = _
  split <;> rfl

theorem lostSince_cleared :
    lostSince topic i (hist ++ [.cleared who]) =
      if who = i then [] else lostSince topic i hist := by
  rw [lostSince, History.left_append_singleton]
  change (if decide (who = i) = true then [] else _ ++ []) = _
  rw [List.append_nil, if_congr decide_eq_true_iff rfl rfl]
  rfl

end LostSince

/-! ## What is kept true -/

/-- The writers are of one topic, and each keeps its own losses. -/
structure Fitted (topic : String) (xs : List Outlet) (w : Shared) : Prop where
  topic_eq : ∀ x ∈ xs, x.writer.topic = topic
  losses_lt : ∀ x ∈ xs, x.writer.losses < w.losses.size
  apart : (xs.map (·.writer.losses)).Nodup

/-- Nothing was published on the topic, and nothing lost. -/
structure Fresh (topic : String) (xs : List Outlet) (w : Shared) : Prop extends
    Fitted topic xs w where
  empty : w.broker.recordCount topic = 0
  lossless : ∀ x ∈ xs, (w.losses.get x.writer.losses).toList = []

theorem fresh_nil {topic : String} {w : Shared} (h : w.broker.recordCount topic = 0) :
    Fresh topic [] w where
  topic_eq _ hx := absurd hx List.not_mem_nil
  losses_lt _ hx := absurd hx List.not_mem_nil
  apart := List.nodup_nil
  empty := h
  lossless _ hx := absurd hx List.not_mem_nil

/-- A new writer has lost nothing. -/
theorem Fresh.add {topic : String} {xs : List Outlet} {w : Shared} (h : Fresh topic xs w)
    (cache : Option Nat) :
    Fresh topic (xs ++ [⟨⟨topic, w.losses.size⟩, cache⟩])
      { w with losses := (w.losses.add {}).2 } := by
  have hsize : (w.losses.add {}).2.size = w.losses.size + 1 := List.length_append
  have hold (x : Outlet) (hx : x ∈ xs) :
      ((w.losses.add {}).2.get x.writer.losses).toList = [] := by
    rw [Pool.get_add_of_lt w.losses {} (h.losses_lt x hx)]
    exact h.lossless x hx
  have hnew : ((w.losses.add {}).2.get w.losses.size).toList = [] :=
    congrArg Log.toList (Pool.get_add_self w.losses {})
  refine { topic_eq := ?_, losses_lt := ?_, apart := ?_, empty := h.empty, lossless := ?_ }
  · exact List.forall_mem_append.mpr ⟨h.topic_eq, List.forall_mem_singleton.mpr rfl⟩
  · rw [hsize]
    exact List.forall_mem_append.mpr ⟨fun x hx => Nat.lt_succ_of_lt (h.losses_lt x hx),
      List.forall_mem_singleton.mpr (Nat.lt_succ_self _)⟩
  · rw [List.map_append, List.map_singleton, ← List.concat_eq_append]
    refine h.apart.concat fun hmem => ?_
    obtain ⟨x, hx, heq⟩ := List.mem_map.mp hmem
    exact absurd heq (Nat.ne_of_lt (h.losses_lt x hx))
  · exact List.forall_mem_append.mpr ⟨hold, List.forall_mem_singleton.mpr hnew⟩

/-- So it is as long as checkpointers are only created, whichever cache each of them is given. -/
theorem Fresh.create {F P C D : Type} {settings : Settings} {xs : List Outlet} {w w' : Shared}
    (h : Fresh settings.topic xs w) {factory : F} {s : Checkpointer F P C D}
    (hs : Checkpointer.create settings factory w = (s, w')) (cache : Option Nat) :
    Fresh settings.topic (xs ++ [⟨s.write.writer, cache⟩]) w' := by
  cases hs
  exact h.add cache

/-- Two of them keep their losses in one place only if they are the same. -/
theorem Fitted.losses_eq_iff {topic : String} {xs : List Outlet} {w : Shared}
    (h : Fitted topic xs w) {i j : Nat} {x y : Outlet} (hx : xs[i]? = some x)
    (hy : xs[j]? = some y) : x.writer.losses = y.writer.losses ↔ i = j := by
  constructor
  · intro heq
    have hlt : i < (xs.map (·.writer.losses)).length := by
      rw [List.length_map]
      exact (List.getElem?_eq_some_iff.mp hx).1
    apply (List.getElem?_inj hlt h.apart).mp
    rw [List.getElem?_map, List.getElem?_map, hx, hy]
    exact congrArg some heq
  · rintro rfl
    rw [Option.some.inj (hx.symm.trans hy)]

/-- All that happened since `w₀` is accounted for. -/
structure Conserved (topic : String) (xs : List Outlet) (w₀ : Shared) (hist : List Happening)
    (w : Shared) : Prop where
  holds : w.broker.Holds topic (hist.filterMap Happening.taken?)
  losses : ∀ who x, xs[who]? = some x →
    (w.losses.get x.writer.losses).toList = lostSince topic who hist
  caches : ∀ j < w₀.caches.size, w.caches.get j = (w₀.caches.get j).addAll
    ((hist.filterMap (Happening.mirrored? xs j)).map Position.entry)
  told : ∀ x ∈ hist, x.Told
  losses_size : w.losses.size = w₀.losses.size
  caches_size : w.caches.size = w₀.caches.size

theorem Fresh.conserved {topic : String} {xs : List Outlet} {w : Shared} (h : Fresh topic xs w) :
    Conserved topic xs w [] w where
  holds := Broker.holds_nil h.empty
  losses _ x hx := h.lossless x (List.mem_of_getElem? hx)
  caches _ _ := rfl
  told _ hx := absurd hx List.not_mem_nil
  losses_size := rfl
  caches_size := rfl

namespace Conserved

variable {topic : String} {xs : List Outlet} {w₀ w w' : Shared} {hist : List Happening}

/-- What leaves the log, the losses and the caches alone changes nothing. -/
theorem of_eq (h : Conserved topic xs w₀ hist w) (hlogs : w.broker.SameLogs w'.broker)
    (hlosses : w'.losses = w.losses) (hcaches : w'.caches = w.caches) :
    Conserved topic xs w₀ hist w' where
  holds p hp := by
    rw [hlogs.entries_eq, Broker.route_congr hlogs.partitions]
    exact h.holds p (hlogs.partitions ▸ hp)
  losses who x hx := by
    rw [hlosses]
    exact h.losses who x hx
  caches j hj := by
    rw [hcaches]
    exact h.caches j hj
  told := h.told
  losses_size := hlosses ▸ h.losses_size
  caches_size := hcaches ▸ h.caches_size

theorem losses_lt (h : Conserved topic xs w₀ hist w) (hfit : Fitted topic xs w₀) {who : Nat}
    {x : Outlet} (hx : xs[who]? = some x) : x.writer.losses < w.losses.size := by
  rw [h.losses_size]
  exact hfit.losses_lt x (List.mem_of_getElem? hx)

/-- A position is accounted for. -/
theorem received (h : Conserved topic xs w₀ hist w) (hfit : Fitted topic xs w₀) {who : Nat}
    {x : Outlet} (hx : xs[who]? = some x) (p : Position) (r : Reception) (n : Log Notice) :
    Conserved topic xs w₀ (hist ++ [.updated who p r r.result])
      (w.received r x.writer x.cache p n) := by
  have htopic := hfit.topic_eq x (List.mem_of_getElem? hx)
  have hlt := h.losses_lt hfit hx
  constructor
  · -- Only what the broker takes gets longer; the topic is the same for all writers.
    rw [History.filterMap_append_singleton]
    change Broker.Holds (if r = .taken then w.broker.push x.writer.topic p.toEntry else w.broker)
      topic (_ ++ (if r = .taken then some p else none).toList)
    by_cases htaken : r = .taken
    · rw [if_pos htaken, if_pos htaken, htopic]
      exact h.holds.push p
    · rw [if_neg htaken, if_neg htaken, Option.toList_none, List.append_nil]
      exact h.holds
  · intro i y hy
    rw [w.toList_losses_received r x.writer x.cache p n hlt, h.losses i y hy, htopic,
      lostSince_updated, if_congr (hfit.losses_eq_iff hx hy) rfl rfl]
  · -- The answer tells whether the cache heard of the position.
    intro j hj
    rw [w.get_caches_received r x.writer x.cache p n (h.caches_size ▸ hj), h.caches j hj,
      History.filterMap_append_singleton, List.map_append, RecencyCache.addAll_append]
    change _ = (_ : RecencyCache).addAll ((if xs[who]?.bind Outlet.cache = some j ∧
      r.result ≠ .error .stopped ∧ r.result ≠ .error .notInitialized then some p
      else none).toList.map Position.entry)
    rw [hx, Option.bind_some, if_congr (and_congr_right' r.mirrored_iff) rfl rfl]
    split <;> rfl
  · exact List.forall_mem_append.mpr ⟨h.told, List.forall_mem_singleton.mpr rfl⟩
  · rw [Shared.size_losses_received, h.losses_size]
  · rw [Shared.size_caches_received, h.caches_size]

/-- Losses are forgotten. -/
theorem cleared (h : Conserved topic xs w₀ hist w) (hfit : Fitted topic xs w₀) {who : Nat}
    {x : Outlet} (hx : xs[who]? = some x) :
    Conserved topic xs w₀ (hist ++ [.cleared who])
      { w with losses := w.losses.modify x.writer.losses fun _ => {} } := by
  have hlt := h.losses_lt hfit hx
  constructor
  · rw [History.filterMap_append_singleton]
    exact (List.append_nil _).symm ▸ h.holds
  · intro i y hy
    rw [Pool.toList_get_modify_empty w.losses hlt, h.losses i y hy, lostSince_cleared,
      if_congr (hfit.losses_eq_iff hx hy) rfl rfl]
  · intro j hj
    rw [h.caches j hj, History.filterMap_append_singleton]
    exact congrArg _ (congrArg _ (List.append_nil _).symm)
  · exact List.forall_mem_append.mpr ⟨h.told, List.forall_mem_singleton.mpr trivial⟩
  · rw [← h.losses_size]
    exact Pool.size_modify ..
  · exact h.caches_size

end Conserved

namespace Checkpointer

variable {D : Type}

/-! ## What can happen -/

/-- What a checkpointer can be asked to do. -/
inductive Ask where
  | publish (p : Position)
  /-- To close its producer, but not to give it up. -/
  | closeHeld
  | clearLosses
  | init
  | start
  | stop
deriving DecidableEq, Repr

/-- What can happen to a broker and its checkpointers. -/
inductive Turn where
  | setUnavailable (on : Bool)
  | setQueueFull (on : Bool)
  | checkpointer (who : Nat) (a : Ask)
deriving DecidableEq, Repr

/-- A checkpointer does what it is asked to. -/
def Ask.run : Ask → Act (Checkpointer Factory Producer Consumer D) (Except Error Unit)
  | publish p => (Checkpointer.publish p).run
  | closeHeld => do
    Checkpointer.closeHeld
    return .ok ()
  | clearLosses => do
    (← get).clearLosses
    return .ok ()
  | init => Checkpointer.init.run
  | start => Checkpointer.start.run
  | stop => do
    Checkpointer.stop
    return .ok ()

def Turn.run : Turn → Act (List (Checkpointer Factory Producer Consumer D)) Unit
  | setUnavailable on => do
    let _ ← Shared.command (.setUnavailable on)
  | setQueueFull on => do
    let _ ← Shared.command (.setQueueFull on)
  | checkpointer who a => do
    let _ ← a.run.member who

/-- What is noted when a checkpointer does what it is asked to. -/
def Ask.noted? (who : Nat) (s : Checkpointer Factory Producer Consumer D) (w : Shared) :
    Ask → Option Happening
  | publish p => some (.updated who p (s.reception w.broker) (Checkpointer.publish p s w).1.1)
  | clearLosses => some (.cleared who)
  | closeHeld | init | start | stop => none

def Turn.noted? (fleet : List (Checkpointer Factory Producer Consumer D)) (w : Shared) :
    Turn → Option Happening
  | checkpointer who a => fleet[who]?.bind fun s => a.noted? who s w
  | setUnavailable _ | setQueueFull _ => none

/-- All that is noted, turn after turn. -/
def history (fleet : List (Checkpointer Factory Producer Consumer D)) (w : Shared) :
    List Turn → List Happening
  | [] => []
  | t :: ts => (t.noted? fleet w).toList ++ history (t.run fleet w).1.2 (t.run fleet w).2 ts

/-! ## What is kept true, turn after turn -/

section Turns

variable {topic : String} {xs : List Outlet} {w₀ w : Shared} {hist : List Happening}

theorem Untouched.outlet_eq {F P C D : Type} {s s' : Checkpointer F P C D} {w w' : Shared}
    (h : Untouched s w s' w') : s'.outlet = s.outlet := by
  rw [outlet, outlet, h.writer, h.cache]

/-- Whatever a checkpointer does is accounted for. -/
theorem Ask.run_conserved (h : Conserved topic xs w₀ hist w) (hfit : Fitted topic xs w₀)
    {who : Nat} {s : Checkpointer Factory Producer Consumer D} (hs : xs[who]? = some s.outlet)
    (a : Ask) :
    (a.run s w).1.2.outlet = s.outlet ∧
      Conserved topic xs w₀ (hist ++ (a.noted? who s w).toList) (a.run s w).2 := by
  -- All but publishing and forgetting leaves no trace.
  have hidle {s' : Checkpointer Factory Producer Consumer D} {w' : Shared}
      (hk : Untouched s w s' w') :
      s'.outlet = s.outlet ∧ Conserved topic xs w₀ (hist ++ []) w' := by
    rw [List.append_nil]
    exact ⟨hk.outlet_eq, h.of_eq hk.logs hk.losses hk.caches⟩
  cases a with
  | publish p =>
    obtain ⟨n, hpublish⟩ := publish_received p w s
    rw [run, noted?, Try.run_apply, hpublish]
    exact ⟨rfl, h.received hfit hs p _ n⟩
  | clearLosses => exact ⟨rfl, h.cleared hfit hs⟩
  | closeHeld => exact hidle (untouched_closeHeld s w)
  | init => exact hidle (untouched_init s w)
  | start => exact hidle (untouched_start s w)
  | stop => exact hidle (untouched_stop s w)

/-- Each turn is accounted for, and no checkpointer changes where it publishes. -/
theorem Turn.run_conserved {fleet : List (Checkpointer Factory Producer Consumer D)}
    (hfleet : fleet.map outlet = xs) (h : Conserved topic xs w₀ hist w)
    (hfit : Fitted topic xs w₀) (t : Turn) :
    (t.run fleet w).1.2.map outlet = xs ∧
      Conserved topic xs w₀ (hist ++ (t.noted? fleet w).toList) (t.run fleet w).2 := by
  cases t with
  | setUnavailable on =>
    rw [noted?, Option.toList_none, List.append_nil]
    exact ⟨hfleet, h.of_eq ⟨rfl, rfl⟩ rfl rfl⟩
  | setQueueFull on =>
    rw [noted?, Option.toList_none, List.append_nil]
    exact ⟨hfleet, h.of_eq ⟨rfl, rfl⟩ rfl rfl⟩
  | checkpointer who a =>
    change (a.run.member who fleet w).1.2.map outlet = xs ∧
      Conserved topic xs w₀ _ (a.run.member who fleet w).2
    rw [noted?]
    cases hs : fleet[who]? with
    | none =>
      rw [Act.member_of_none hs, Option.bind_none, Option.toList_none, List.append_nil]
      exact ⟨hfleet, h⟩
    | some s =>
      have houtlet : xs[who]? = some s.outlet := by
        rw [← hfleet, List.getElem?_map, hs]
        rfl
      obtain ⟨hsame, hconserved⟩ := a.run_conserved h hfit houtlet
      rcases hrun : a.run s w with ⟨⟨answer, s'⟩, w'⟩
      rw [hrun] at hsame hconserved
      rw [Act.member_of_some hs hrun]
      refine ⟨?_, hconserved⟩
      rw [List.map_set, hsame, hfleet]
      exact set_eq_self_of_getElem? houtlet

theorem forM_run_conserved {fleet : List (Checkpointer Factory Producer Consumer D)}
    (hfleet : fleet.map outlet = xs) (h : Conserved topic xs w₀ hist w)
    (hfit : Fitted topic xs w₀) (ts : List Turn) :
    (ts.forM Turn.run fleet w).1.2.map outlet = xs ∧
      Conserved topic xs w₀ (hist ++ history fleet w ts) (ts.forM Turn.run fleet w).2 := by
  -- The history grows at its end, so the induction is on the turns from the front, for any history.
  induction ts generalizing fleet w hist with
  | nil =>
    rw [history, List.append_nil]
    exact ⟨hfleet, h⟩
  | cons t ts ih =>
    obtain ⟨hfirst, hconserved⟩ := t.run_conserved hfleet h hfit
    rw [history, ← List.append_assoc]
    exact ih hfirst hconserved

end Turns

/-- What the broker took is on the topic, in order; what it refused is lost to the writer alone, as
long as that was not told to forget it; and whatever was neither refused by a stopped checkpointer
nor by one that was not initialized is in the cache. -/
theorem publishing_conserved {topic : String}
    {fleet : List (Checkpointer Factory Producer Consumer D)} {w : Shared}
    (h : Fresh topic (fleet.map outlet) w) (ts : List Turn) :
    ∃ fleet' w', ts.forM Turn.run fleet w = (((), fleet'), w') ∧
      fleet'.map outlet = fleet.map outlet ∧
      w'.broker.Holds topic ((history fleet w ts).filterMap Happening.taken?) ∧
      (∀ who s, fleet'[who]? = some s →
        (s.losses w').1 = lostSince topic who (history fleet w ts)) ∧
      (∀ j < w.caches.size, w'.caches.get j = (w.caches.get j).addAll
        (((history fleet w ts).filterMap (Happening.mirrored? (fleet.map outlet) j)).map
          Position.entry)) ∧
      ∀ who p r answer, .updated who p r answer ∈ history fleet w ts → answer = r.result := by
  obtain ⟨hsame, hconserved⟩ := forM_run_conserved rfl h.conserved h.toFitted ts
  refine ⟨_, _, rfl, hsame, hconserved.holds, fun who s hs => ?_, hconserved.caches,
    fun who p r answer hmem => hconserved.told _ hmem⟩
  apply hconserved.losses who s.outlet
  rw [← hsame, List.getElem?_map, hs]
  rfl

/-- Each of five positions meets something else. -/
theorem publishing_conserved_of_failures :
    ∃ fleet' w',
      [.checkpointer 0 (.publish ⟨"a", 1⟩), .setQueueFull true, .checkpointer 1 (.publish ⟨"b", 2⟩),
        .setQueueFull false, .setUnavailable true, .checkpointer 0 (.publish ⟨"a", 3⟩),
        .checkpointer 0 .clearLosses, .checkpointer 1 .closeHeld,
        .checkpointer 1 (.publish ⟨"c", 4⟩), .checkpointer 1 .stop,
        .checkpointer 1 (.publish ⟨"d", 5⟩)].forM Turn.run [simple "t" 0, simple "t" 1]
          { Shared.start {} 2 2 with losses := ⟨[{}, {}]⟩ } = (((), fleet'), w') ∧
      w'.broker.Holds "t" [⟨"a", 1⟩] ∧
      (∀ s, fleet'[0]? = some s → (s.losses w').1 = []) ∧
      (∀ s, fleet'[1]? = some s → (s.losses w').1 =
        [⟨(⟨"b", 2⟩ : Position).key, none, .unavailable "local queue is full"⟩]) ∧
      w'.caches.get 0 = (RecencyCache.new 2).addAll [("a", 1), ("a", 3)] ∧
      w'.caches.get 1 = (RecencyCache.new 2).addAll [("b", 2), ("c", 4)] := by
  have hfresh : Fresh "t" ([simple "t" 0, simple "t" 1].map outlet)
      { Shared.start {} 2 2 with losses := ⟨[{}, {}]⟩ } := by
    have hnil : Fresh "t" [] (.start {} 2 2) := fresh_nil (by decide)
    exact (hnil.add (some 0)).add (some 1)
  obtain ⟨fleet', w', hrun, -, hlog, hlosses, hcaches, -⟩ := publishing_conserved hfresh
      [.checkpointer 0 (.publish ⟨"a", 1⟩), .setQueueFull true, .checkpointer 1 (.publish ⟨"b", 2⟩),
        .setQueueFull false, .setUnavailable true, .checkpointer 0 (.publish ⟨"a", 3⟩),
        .checkpointer 0 .clearLosses, .checkpointer 1 .closeHeld,
        .checkpointer 1 (.publish ⟨"c", 4⟩), .checkpointer 1 .stop,
        .checkpointer 1 (.publish ⟨"d", 5⟩)]
  refine ⟨fleet', w', hrun, hlog, fun s hs => hlosses 0 s hs, fun s hs => hlosses 1 s hs,
    hcaches 0 (by decide), hcaches 1 (by decide)⟩

end Checkpointer

end PositionLog
