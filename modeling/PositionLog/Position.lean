import PositionLog.Text.Utf8

/-! # Positions

How far a stream of work has got.
-/

namespace PositionLog

structure Position where
  stream : String
  offset : Int64
deriving DecidableEq, Repr, Inhabited

namespace Position

def key (p : Position) : Bytes := Payload.toBytes p.stream

def value (p : Position) : Bytes := Payload.toBytes p.offset

/-- Reads back a position. Nothing is read from a value that is no offset. -/
def ofRecord? (key value : Bytes) : Option Position :=
  value.toInt64?.map fun offset => ⟨Text.Utf8.decode key, offset⟩

end Position

end PositionLog
