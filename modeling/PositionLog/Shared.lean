import PositionLog.Notice
import PositionLog.Observation
import PositionLog.Pool
import PositionLog.RecencyCache
import PositionLog.GroupId
import PositionLog.Settings

/-! # What is shared

The broker, and all else that several parties hold at once; and what is told about their work.
-/

namespace PositionLog

structure Shared where
  broker : Broker := {}
  caches : Pool RecencyCache := {}
  /-- For each loader that can tell, how many records it has seen. -/
  counters : Pool Nat := {}
  /-- For each writer, what it lost. -/
  losses : Pool (Log Loss) := {}
  /-- The tickets that scripted producers keep. -/
  pending : List Ticket := []
  /-- The names of groups that nobody joined before, in the order in which they are given out. -/
  groupName : Nat → String := GroupId.name
  /-- How many group names were given out. -/
  groups : Nat := 0
  /-- How many scripted parties there are. -/
  parties : Nat := 0
  observations : Log Observation := {}
  notices : Log Notice := {}
deriving Inhabited

namespace Shared

def tell (n : Notice) : StateM Shared Unit :=
  modify fun w => { w with notices := w.notices.push n }

def observe (o : Observation) : StateM Shared Unit :=
  modify fun w => { w with observations := w.observations.push o }

def call (party : Nat) (c : Call) : StateM Shared Unit := observe (.called party c)

def lose (i : Nat) (l : Loss) : StateM Shared Unit :=
  modify fun w => { w with losses := w.losses.modify i (·.push l) }

/-- Gives the report on a record to who waits for it. -/
def settle : Ticket → Report → StateM Shared Unit
  | .watcher, report => observe (.reported report)
  | .writer .., .ok _ => pure ()
  | .writer losses key, .error failure => do
    tell (.deliveryFailed failure.error)
    lose losses ⟨key, failure.metadata, failure.error⟩

def newCache (capacity : Int) : StateM Shared Nat := modifyGet fun w =>
  let (i, caches) := w.caches.add (.new capacity)
  (i, { w with caches })

def newCounter : StateM Shared Nat := modifyGet fun w =>
  let (i, counters) := w.counters.add 0
  (i, { w with counters })

def newLosses : StateM Shared Nat := modifyGet fun w =>
  let (i, losses) := w.losses.add {}
  (i, { w with losses })

def newParty : StateM Shared Nat := modifyGet fun w =>
  (w.parties, { w with parties := w.parties + 1 })

def cache (i : Nat) : StateM Shared RecencyCache := return (← get).caches.get i

def modifyCache (i : Nat) (f : RecencyCache → RecencyCache) : StateM Shared Unit :=
  modify fun w => { w with caches := w.caches.modify i f }

def count (f : ClientCounts → ClientCounts) : StateM Shared Unit :=
  modify fun w => { w with broker := { w.broker with counts := f w.broker.counts } }

def command (c : Broker.Command) : StateM Shared (Except BrokerError Broker.Reply) :=
  modifyGet fun w =>
    let (reply, broker) := w.broker.run c
    (reply, { w with broker })

section Apply

variable {α β : Type}

@[simp] theorem pure_apply (a : α) (w : Shared) : (pure a : StateM Shared α) w = (a, w) := rfl

@[simp] theorem bind_apply (x : StateM Shared α) (f : α → StateM Shared β) (w : Shared) :
    (x >>= f) w = f (x w).1 (x w).2 := rfl

@[simp] theorem map_apply (f : α → β) (x : StateM Shared α) (w : Shared) :
    (f <$> x) w = (f (x w).1, (x w).2) := rfl

@[simp] theorem get_apply (w : Shared) : (get : StateM Shared Shared) w = (w, w) := rfl

@[simp] theorem modify_apply (f : Shared → Shared) (w : Shared) :
    (modify f : StateM Shared Unit) w = ((), f w) := rfl

@[simp] theorem modifyGet_apply (f : Shared → α × Shared) (w : Shared) :
    (modifyGet f : StateM Shared α) w = f w := rfl

@[simp] theorem tell_apply (n : Notice) (w : Shared) :
    tell n w = ((), { w with notices := w.notices.push n }) := rfl

@[simp] theorem observe_apply (o : Observation) (w : Shared) :
    observe o w = ((), { w with observations := w.observations.push o }) := rfl

@[simp] theorem call_apply (party : Nat) (c : Call) (w : Shared) :
    call party c w = ((), { w with observations := w.observations.push (.called party c) }) := rfl

@[simp] theorem lose_apply (i : Nat) (l : Loss) (w : Shared) :
    lose i l w = ((), { w with losses := w.losses.modify i (·.push l) }) := rfl

@[simp] theorem settle_watcher (report : Report) (w : Shared) :
    settle .watcher report w =
      ((), { w with observations := w.observations.push (.reported report) }) := rfl

@[simp] theorem settle_writer_ok (i : Nat) (key : Bytes) (place : Metadata) (w : Shared) :
    settle (.writer i key) (.ok place) w = ((), w) := rfl

@[simp] theorem settle_writer_error (i : Nat) (key : Bytes) (f : DeliveryFailure) (w : Shared) :
    settle (.writer i key) (.error f) w = ((), { w with
      notices := w.notices.push (.deliveryFailed f.error)
      losses := w.losses.modify i (·.push ⟨key, f.metadata, f.error⟩) }) := rfl

@[simp] theorem cache_apply (i : Nat) (w : Shared) : cache i w = (w.caches.get i, w) := rfl

@[simp] theorem modifyCache_apply (i : Nat) (f : RecencyCache → RecencyCache) (w : Shared) :
    modifyCache i f w = ((), { w with caches := w.caches.modify i f }) := rfl

@[simp] theorem count_apply (f : ClientCounts → ClientCounts) (w : Shared) :
    count f w = ((), { w with broker := { w.broker with counts := f w.broker.counts } }) := rfl

@[simp] theorem command_apply (c : Broker.Command) (w : Shared) :
    command c w = ((w.broker.run c).1, { w with broker := (w.broker.run c).2 }) := rfl

end Apply

end Shared

/-- Default properties of a consumer, in a group of its own. -/
def Properties.newConsumer (addresses : String) :
    StateM Shared (Except ConfigError Properties) := do
  let w ← get
  let group := w.groupName w.groups
  let result := consumerDefaults addresses group
  if result matches .ok _ then
    modify fun w => { w with groups := w.groups + 1 }
    Shared.tell (.groupCreated group)
  return result

/-- Checks a draft. The consumer of given servers joins a group of its own. -/
def Settings.Draft.build (d : Draft) : StateM Shared (Except ConfigError Settings) := do
  let w ← get
  let group := w.groupName w.groups
  let result := d.check group
  if d.servers.isSome && result matches .ok _ then
    modify fun w => { w with groups := w.groups + 1 }
    Shared.tell (.groupCreated group)
  return result

end PositionLog
