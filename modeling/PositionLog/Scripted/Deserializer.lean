import PositionLog.Deserializer

/-! # Scripted deserializers

They let the records be seen, and may work on the log themselves before they answer.
-/

namespace PositionLog.Scripted

structure Deserializer where
  /-- The records after which it asks to stop, counted from one. -/
  stops : List Nat := []
  /-- What is done at which record. -/
  hooks : List (Nat × List Hook) := []
  seen : Nat := 0
deriving DecidableEq, Repr

namespace Deserializer

variable {P : Type} [LogProducer P]

/-- Does what a hook asks for. Nothing can be published where no write path is open. -/
def perform : Hook → Act (Option (WritePath P)) HookReply
  | .broker c => do return .broker (← Shared.command c)
  | .publish p => do
    let result ← Act.onSome (WritePath.publish p).run
    return .published (result.getD (.error .notInitialized))
  | .losses => do
    match ← get with
    | none => return .losses []
    | some s => return .losses (← s.writer.lost)
  | .clearLosses => do
    match ← get with
    | none => return .cleared
    | some s =>
      s.writer.forget
      return .cleared

def runHook (h : Hook) : Act (Option (WritePath P)) Unit := do
  Shared.observe (.hooked (← perform h))

def hooksAt (d : Deserializer) (n : Nat) : List Hook := (d.hooks.lookup n).getD []

def deserialize (key value : Bytes) : Act (Intake Deserializer P) Bool := do
  let s ← get
  let d := s.deserializer
  let seen := d.seen + 1
  Shared.observe (.record key value)
  set { s with deserializer := { d with seen } }
  Act.on Intake.write (fun write s => { s with write }) ((d.hooksAt seen).forM runHook)
  return !d.stops.contains seen

/-- What the hooks not reached yet may append. -/
def appends (d : Deserializer) : Nat :=
  (((d.hooks.filter (d.seen < ·.1)).flatMap (·.2)).map Hook.appends).foldr (· + ·) 0

end Deserializer

instance : PositionLog.Deserializer Deserializer where
  deserialize := Deserializer.deserialize
  appends := Deserializer.appends

end PositionLog.Scripted
