import PositionLog.Client

/-! # Consumers of the broker in memory

A consumer is given all partitions of its topic on the first poll after it subscribed, and reads
each from offset 0 unless its listener seeks elsewhere.
-/

namespace PositionLog.Broker

/-- The positions of a consumer, for its listener to read and to set. -/
def cursor : Cursor (Slots Nat) where
  endOffset p := return ((← getThe Shared).broker.endOffset p).map fun n : Nat => (n : Int)
  seek p offset := do
    if offset < 0 then
      return .error (.invalidState s!"cannot seek {p.render} to negative offset {offset}")
    else if 0 ≤ p.partition ∧ p.partition < (← getThe Shared).broker.partitions then
      modify (·.set p.partition.toNat offset.toNat)
      return .ok ()
    else
      return .error (.invalidState (p.render ++ " is not assigned"))

structure Subscription where
  topic : String
  listener : Option Listener
  /-- Where each partition is read next, once they are assigned: at its start if nothing else is
  said. -/
  positions : Option (Slots Nat) := none
deriving DecidableEq, Repr

namespace Subscription

/-- The positions, after the partitions were assigned if they had not been. -/
def assign (s : Subscription) : StateM Shared (Slots Nat) := do
  match s.positions with
  | some positions => return positions
  | none =>
    match s.listener with
    | none => return {}
    | some l => return (← (l.assigned cursor ((← get).broker.partitionsOf s.topic)).run {}).2

end Subscription

/-- Takes up to `room` unread records from the partitions `ps`, which are read next at `positions`,
and moves the positions past them. The records `taken` were taken before, the last one first. -/
def takeFrom (b : Broker) (topic : String) :
    (ps : List Nat) → (room : Nat) → (taken : List Record) → (positions : Slots Nat) →
      List Record × Slots Nat
  | [], _, taken, positions => (taken.reverse, positions)
  | p :: ps, room, taken, positions =>
    if room = 0 then (taken.reverse, positions)
    else
      let start := positions.getD p 0
      match b.read topic p start room with
      | [] => b.takeFrom topic ps room taken positions
      | batch => b.takeFrom topic ps (room - batch.length) (batch.reverse ++ taken)
          (positions.set p (start + batch.length))

/-- Takes up to `limit` unread records, from one partition after the other. -/
def takeUnread (b : Broker) (topic : String) (limit : Nat) (positions : Slots Nat) :
    List Record × Slots Nat :=
  b.takeFrom topic (List.range b.partitions) limit [] positions

/-- How many records are unread. -/
def unread (b : Broker) (topic : String) (positions : Slots Nat) : Nat :=
  ((List.range b.partitions).map fun p =>
    (b.entries topic p).size - positions.getD p 0).foldr (· + ·) 0

structure Consumer where
  subscription : Option Subscription := none
  closed : Bool := false
  /-- Closing it reports an error. It is closed nevertheless. -/
  failsToClose : Bool := false
  /-- How many polls to come find nothing, as if the broker were slow. -/
  stalledPolls : Nat := 0
  maxPollRecords : Nat := 500
  polls : Nat := 0
  subscribeCalls : Nat := 0
deriving DecidableEq, Repr, Inhabited

namespace Consumer

/-- A new consumer that takes up to `maxPollRecords` records, and at least one, with a poll. The
broker counts it. -/
def create (maxPollRecords : Nat) (failsToClose : Bool) : StateM Shared Consumer := do
  Shared.count fun n => { n with consumersCreated := n.consumersCreated + 1 }
  return { failsToClose, maxPollRecords := max 1 maxPollRecords }

def stall (c : Consumer) (polls : Nat) : Consumer := { c with stalledPolls := polls }

def subscribe (topic : String) (listener : Option Listener) : Request Consumer Unit := do
  let c ← get
  if c.closed then throw .closed
  set { c with
    subscription := some { topic, listener }
    subscribeCalls := c.subscribeCalls + 1 }

def unsubscribe : Request Consumer Unit := do
  let c ← get
  if c.closed then throw .closed
  set { c with subscription := none }
  match c.subscription with
  | some { topic, listener := some l, .. } =>
    l.revoked ((← getThe Shared).broker.partitionsOf topic)
  | _ => pure ()

def poll : Request Consumer (List Record) := do
  let c ← get
  if c.closed then throw .closed
  match c.subscription with
  | none => throw (.invalidState "consumer is not subscribed to any topic")
  | some s =>
    let positions ← s.assign
    let c := { c with polls := c.polls + 1 }
    if 0 < c.stalledPolls then
      set { c with
        subscription := some { s with positions := some positions }
        stalledPolls := c.stalledPolls - 1 }
      return []
    else
      let (batch, positions) :=
        (← getThe Shared).broker.takeUnread s.topic c.maxPollRecords positions
      set { c with subscription := some { s with positions := some positions } }
      return batch

def close : Request Consumer Unit := do
  let c ← get
  if c.closed then return
  set { c with closed := true, subscription := none }
  Shared.count fun n => { n with consumersClosed := n.consumersClosed + 1 }
  if c.failsToClose then throw (.unavailable "failed to leave group on close")

/-- The number of records unread. Before the assignment, all records are. -/
def backlog (c : Consumer) (w : Shared) : Nat :=
  match c.subscription with
  | none => 0
  | some { topic, positions := none, .. } => w.broker.recordCount topic
  | some { topic, positions := some positions, .. } => w.broker.unread topic positions

/-- What a consumer shows of itself. -/
def render (c : Consumer) : String :=
  "MemoryConsumer \x7b topic: " ++ Text.Quoted.option (c.subscription.map (·.topic)) ++
    ", closed: " ++ toString c.closed ++ ", polls: " ++ toString c.polls ++ " \x7d"

end Consumer

instance : LogConsumer Consumer where
  subscribe := Consumer.subscribe
  unsubscribe := Consumer.unsubscribe
  poll _ := Consumer.poll
  close := Consumer.close
  backlog := Consumer.backlog

end PositionLog.Broker
