import PositionLog.Broker.Basic
import PositionLog.Text.Utf8

/-! # Commands to the broker

What can be asked of a broker from outside, and what it answers.
-/

namespace PositionLog.Broker

inductive Command where
  | append (topic : String) (key value : Bytes)
  /-- One record for each number from `first` up to `last`, the latter left out: its key is `stem`
  and the number, its value the number times `factor`. -/
  | appendMany (topic stem : String) (first last factor : Int)
  | setUnavailable (on : Bool)
  | setQueueFull (on : Bool)
  | recordCount (topic : String)
  | endOffset (partition : TopicPartition)
  | counts
deriving DecidableEq, Repr

inductive Reply where
  | done
  | appended (at_ : Metadata)
  | appendedMany (at_ : List Metadata)
  | count (n : Nat)
  | counts (partitions : Nat) (clients : ClientCounts)
deriving DecidableEq, Repr

/-- The whole numbers from `first` up to `last`, the latter left out. -/
def range (first last : Int) : List Int :=
  (List.range (last - first).toNat).map fun i : Nat => first + i

def numberedKey (stem : String) (n : Int) : String := stem ++ toString n

/-- Appends entries until one is rejected. The places `at_` were given before, the last one
first. -/
def appendAll (b : Broker) (topic : String) (at_ : List Metadata) :
    List Entry → Except BrokerError (List Metadata) × Broker
  | [] => (.ok at_.reverse, b)
  | e :: r =>
    match b.append topic e with
    | .error cause => (.error cause, b)
    | .ok (place, b) => b.appendAll topic (place :: at_) r

def run (b : Broker) : Command → Except BrokerError Reply × Broker
  | .append topic key value =>
    match b.append topic ⟨key, value⟩ with
    | .error cause => (.error cause, b)
    | .ok (at_, b) => (.ok (.appended at_), b)
  | .appendMany topic stem first last factor =>
    let entries := (range first last).map fun n =>
      ⟨Payload.toBytes (numberedKey stem n), Payload.toBytes (Int64.ofInt (n * factor))⟩
    let (result, b) := b.appendAll topic [] entries
    (result.map .appendedMany, b)
  | .setUnavailable on => (.ok .done, { b with unavailable := on })
  | .setQueueFull on => (.ok .done, { b with queueFull := on })
  | .recordCount topic => (.ok (.count (b.recordCount topic)), b)
  | .endOffset partition => ((b.endOffset partition).map .count, b)
  | .counts => (.ok (.counts b.partitions b.counts), b)

/-- How many records a command may append. -/
def Command.appends : Command → Nat
  | .append .. => 1
  | .appendMany _ _ first last _ => (last - first).toNat
  | _ => 0

end PositionLog.Broker
