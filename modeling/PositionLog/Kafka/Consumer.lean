import PositionLog.Kafka.Library

/-! # Kafka consumers -/

namespace PositionLog.Kafka

structure Consumer (L : Type) where
  library : L
  closed : Bool := false
deriving DecidableEq, Repr

namespace Consumer

/-- At most so many records are found by a poll. -/
def maxPollRecords : Nat := 500

/-- Whether `part` occurs in a text. -/
def occurs (part : List Char) : List Char → Bool
  | [] => part.isEmpty
  | c :: r => part.isPrefixOf (c :: r) || occurs part r

/-- Seeks are applied by assigning all partitions anew, so partitions must not come and go one by
one. -/
def checkStrategy (properties : Properties) : Except BrokerError Unit :=
  match properties.get? "partition.assignment.strategy" with
  | none => .ok ()
  | some strategy =>
    if occurs "cooperative".toList strategy.toList then
      .error (.invalidState
        s!"assignment strategy {strategy} is not supported, use an eager assignor")
    else .ok ()

variable {L : Type} [ConsumerLibrary L]

def create (properties : Properties) : Except BrokerError (Consumer L) := do
  checkStrategy properties
  match ConsumerLibrary.create properties with
  | .error text => throw (.kafka text)
  | .ok library => return { library }

/-- Leaves a step to the library. -/
def ask {α : Type} (x : Act L α) : Act (Consumer L) α :=
  Act.on library (fun library c => { c with library }) x

def subscribe (topic : String) (l : Option Listener) : Request (Consumer L) Unit := do
  if (← get).closed then throw .closed
  match ← (ask (ConsumerLibrary.subscribe topic l).run : Act (Consumer L) _) with
  | .ok () => pure ()
  | .error text => throw (.kafka text)

def unsubscribe : Request (Consumer L) Unit := do
  if (← get).closed then throw .closed
  (ask ConsumerLibrary.unsubscribe : Act (Consumer L) Unit)

/-- Gathers up to so many records. Only the first is waited for. -/
def gather (timeout : Nat) : (room : Nat) → Request (Consumer L) (List Record)
  | 0 => return []
  | room + 1 => do
    match ← (ask (ConsumerLibrary.poll timeout) : Act (Consumer L) _) with
    | none => return []
    | some (.error text) => throw (.kafka text)
    | some (.ok r) => return r :: (← gather 0 room)

def poll (timeout : Nat) : Request (Consumer L) (List Record) := do
  if (← get).closed then throw .closed
  gather timeout maxPollRecords

def close : Request (Consumer L) Unit := do
  let c ← get
  if c.closed then return
  set { c with closed := true }
  (ask ConsumerLibrary.unsubscribe : Act (Consumer L) Unit)

end Consumer

instance {L : Type} [ConsumerLibrary L] : LogConsumer (Consumer L) where
  subscribe := Consumer.subscribe
  unsubscribe := Consumer.unsubscribe
  poll := Consumer.poll
  close := Consumer.close
  backlog c _ := ConsumerLibrary.backlog c.library

end PositionLog.Kafka
