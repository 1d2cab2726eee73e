import PositionLog.Client

/-! # Scripted producers

They answer each call as a script says, and let the calls be seen.
-/

namespace PositionLog.Scripted

/-- How a record sent is dealt with. -/
inductive SendAnswer where
  /-- It is acknowledged at once, in a place of no meaning. -/
  | acknowledge
  | report (report : Report)
  /-- Its ticket is kept, for a later report. -/
  | keep
  /-- Its ticket is thrown away. -/
  | discard
  | refuse (cause : BrokerError)
deriving DecidableEq, Repr

structure Producer where
  party : Nat
  sends : List SendAnswer := []
  /-- The failures of closing, one for each call. -/
  closes : List (Option BrokerError) := []
deriving DecidableEq, Repr

/-- Ends a call that may fail. -/
def answer {C : Type} : Option BrokerError → Request C Unit
  | none => pure ()
  | some cause => throw cause

namespace Producer

def send (topic : String) (key value : Bytes) (t : Ticket) : Request Producer Receipt := do
  let p ← get
  Shared.call p.party (.send topic key value)
  set { p with sends := p.sends.tail }
  match p.sends.head?.getD .acknowledge with
  | .acknowledge => return .settled (.ok ⟨topic, some 0, some 0⟩)
  | .report report => return .settled report
  | .keep =>
    modifyThe Shared fun w => { w with pending := w.pending ++ [t] }
    return .outstanding
  | .discard => return .outstanding
  | .refuse cause => throw cause

def close : Request Producer Unit := do
  let p ← get
  Shared.call p.party .closeProducer
  set { p with closes := p.closes.tail }
  answer p.closes.head?.join

end Producer

instance : LogProducer Producer where
  send := Producer.send
  close := Producer.close
  abandoned _ := []

end PositionLog.Scripted
