import PositionLog.Position
import PositionLog.Proofs.Text.Utf8
import Mathlib.Tactic.Ring

/-!
# Reading positions back

A position is read back from the key and the value of its record.  So no two positions have the
same record, and records of different streams have different keys.
-/

namespace PositionLog

namespace Bytes

theorem shiftRight_eq_div (n width : Nat) : n >>> (8 * width) = n / 256 ^ width := by
  rw [Nat.shiftRight_eq_div_pow, pow_mul]
  rfl

/-- Bytes written behind other bytes are worth what they are worth alone, and what stands before
them is worth as many powers of 256 more. -/
theorem foldl_ofNat (width n a : Nat) :
    (ofNat width n).foldl (fun m x => m * 256 + x.toNat) a = a * 256 ^ width + n % 256 ^ width := by
  induction width generalizing a with
  | zero => simp [ofNat, Nat.mod_one]
  | succ width ih =>
    have hb : (UInt8.ofNat (n / 256 ^ width)).toNat = n / 256 ^ width % 256 := UInt8.toNat_ofNat'
    rw [ofNat, shiftRight_eq_div, List.foldl_cons, ih, hb, pow_succ, Nat.mod_mul]
    ring

theorem toNat_ofNat (width n : Nat) : (ofNat width n).toNat = n % 256 ^ width := by
  rw [toNat, foldl_ofNat, Nat.zero_mul, Nat.zero_add]

/-- A signed word is read back from the bytes written for it. -/
theorem toInt64?_toBytes (i : Int64) : toInt64? (Payload.toBytes i) = some i := by
  have hl : (Payload.toBytes i : Bytes).length = 8 := length_ofNat 8 _
  have hw : (Payload.toBytes i : Bytes).toNat = i.toUInt64.toNat := by
    change (ofNat 8 i.toUInt64.toNat).toNat = _
    rw [toNat_ofNat]
    exact Nat.mod_eq_of_lt i.toUInt64.toNat_lt
  rw [toInt64?, if_pos hl, hw, UInt64.ofNat_toNat, Int64.toInt64_toUInt64]

end Bytes

namespace Position

/-- A position is read back from its record. -/
@[simp] theorem ofRecord?_key_value (p : Position) : ofRecord? p.key p.value = some p := by
  rw [ofRecord?, value, Bytes.toInt64?_toBytes, Option.map_some]
  change some (⟨Text.Utf8.decode (Text.Utf8.encode p.stream), p.offset⟩ : Position) = _
  rw [Text.Utf8.decode_encode]

/-- Positions share a key exactly if they are of one stream. -/
theorem key_eq_key_iff {p q : Position} : p.key = q.key ↔ p.stream = q.stream := by
  constructor
  · intro h
    exact Text.Utf8.encode_injective h
  · intro h
    exact congrArg Text.Utf8.encode h

end Position

end PositionLog
