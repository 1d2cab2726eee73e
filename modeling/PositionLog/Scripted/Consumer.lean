import PositionLog.Scripted.Producer

/-! # Scripted consumers

They answer each call as a script says, and let the calls be seen. A poll can hand partitions to
the listener before it answers.
-/

namespace PositionLog.Scripted

/-- A partition that is assigned, and how a cursor deals with it. -/
structure Assignment where
  partition : TopicPartition
  endOffset : Except BrokerError Int
  seekFailure : Option BrokerError := none
deriving DecidableEq, Repr

inductive PollAnswer where
  | fail (cause : BrokerError)
  | batch (revoked : Option (List TopicPartition)) (assigned : Option (List Assignment))
      (records : List Record)
deriving DecidableEq, Repr

structure Consumer where
  party : Nat
  subscribes : List (Option BrokerError) := []
  unsubscribes : List (Option BrokerError) := []
  polls : List PollAnswer := []
  closes : List (Option BrokerError) := []
  listener : Option Listener := none
deriving DecidableEq, Repr

/-- The first entry of a partition; later ones of the same partition do not count. -/
def assignmentOf? (assignments : List Assignment) (p : TopicPartition) : Option Assignment :=
  assignments.find? (·.partition = p)

/-- Answers by the entry of the partition. Without one the end is not known, and a seek, which only
an entry can refuse, goes through. -/
def cursor (party : Nat) (assignments : List Assignment) : Cursor Unit where
  endOffset p := do
    Shared.call party (.endOffset p)
    return match assignmentOf? assignments p with
      | some a => a.endOffset
      | none => .error (.invalidState (p.render ++ " is not assigned"))
  seek p offset := do
    Shared.call party (.seek p offset)
    return match (assignmentOf? assignments p).bind (·.seekFailure) with
      | some cause => .error cause
      | none => .ok ()

namespace Consumer

def subscribe (topic : String) (listener : Option Listener) : Request Consumer Unit := do
  let c ← get
  Shared.call c.party (.subscribe topic listener.isSome)
  match c.subscribes.head?.join with
  | none => set { c with subscribes := c.subscribes.tail, listener }
  | some cause =>
    set { c with subscribes := c.subscribes.tail }
    throw cause

def unsubscribe : Request Consumer Unit := do
  let c ← get
  Shared.call c.party .unsubscribe
  set { c with unsubscribes := c.unsubscribes.tail }
  answer c.unsubscribes.head?.join

/-- Lets the listener hear what a poll changes, first what is taken away. -/
def rebalance (c : Consumer) (revoked : Option (List TopicPartition))
    (assigned : Option (List Assignment)) : StateM Shared Unit := do
  match c.listener with
  | none => pure ()
  | some l =>
    match revoked with
    | none => pure ()
    | some ps => l.revoked ps
    match assigned with
    | none => pure ()
    | some ps =>
      let _ ← (l.assigned (cursor c.party ps) (ps.map (·.partition))).run ()

def poll (timeout : Nat) : Request Consumer (List Record) := do
  let c ← get
  Shared.call c.party (.poll timeout)
  set { c with polls := c.polls.tail }
  match c.polls.head? with
  | none => return []
  | some (.fail cause) => throw cause
  | some (.batch revoked assigned records) =>
    c.rebalance revoked assigned
    return records

def close : Request Consumer Unit := do
  let c ← get
  Shared.call c.party .closeConsumer
  set { c with closes := c.closes.tail }
  answer c.closes.head?.join

end Consumer

instance : LogConsumer Consumer where
  subscribe := Consumer.subscribe
  unsubscribe := Consumer.unsubscribe
  poll := Consumer.poll
  close := Consumer.close
  backlog c _ := c.polls.length

end PositionLog.Scripted
