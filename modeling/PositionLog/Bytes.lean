/-! # Bytes, and the values written as bytes -/

namespace PositionLog

abbrev Bytes := List UInt8

namespace Bytes

/-- The value of the bytes, the first one counting most. -/
def toNat (b : Bytes) : Nat := b.foldl (fun n x => n * 256 + x.toNat) 0

/-- The last `width` base-256 digits of `n`, the most significant first. -/
def ofNat : (width n : Nat) → Bytes
  | 0, _ => []
  | width + 1, n => UInt8.ofNat (n >>> (8 * width)) :: ofNat width n

@[simp] theorem length_ofNat (width n : Nat) : (ofNat width n).length = width := by
  induction width with
  | zero => rfl
  | succ width ih => simp [ofNat, ih]

/-- The value of the bytes, the first one counting least. -/
def littleEndian : Bytes → UInt32
  | [] => 0
  | b :: r => b.toUInt32 ||| littleEndian r <<< 8

end Bytes

/-- What can be written to a log as the key or the value of a record. -/
class Payload (α : Type) where
  toBytes : α → Bytes

instance : Payload Bytes := ⟨id⟩

/-- Words are written in eight bytes, the most significant first. -/
instance : Payload UInt64 := ⟨fun w => Bytes.ofNat 8 w.toNat⟩

/-- Signed words are written as the word of the same bits. -/
instance : Payload Int64 := ⟨fun i => Payload.toBytes i.toUInt64⟩

/-- Reads back a signed word, from exactly eight bytes. -/
def Bytes.toInt64? (b : Bytes) : Option Int64 :=
  if b.length = 8 then some (UInt64.ofNat b.toNat).toInt64 else none

@[simp] theorem Bytes.toInt64?_eq_none {b : Bytes} : b.toInt64? = none ↔ b.length ≠ 8 := by
  simp [Bytes.toInt64?]

end PositionLog
