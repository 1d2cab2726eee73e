import PositionLog.Bytes

/-! # Which partition a key belongs to

Keys are spread over the partitions of a topic by the 32-bit Murmur2 hash of their bytes, so all
records of one key share a partition.
-/

namespace PositionLog.Partitioner

def seed : UInt32 := 0x9747b28c

def multiplier : UInt32 := 0x5bd1e995

def scramble (k : UInt32) : UInt32 :=
  let k := k * multiplier
  (k ^^^ k >>> 24) * multiplier

/-- Takes in the bytes four at a time; what is left over at the end is taken in unscrambled. -/
def absorb (h : UInt32) : Bytes → UInt32
  | a :: b :: c :: d :: r =>
    absorb (h * multiplier ^^^ scramble (Bytes.littleEndian [a, b, c, d])) r
  | [] => h
  | r => (h ^^^ Bytes.littleEndian r) * multiplier

def finish (h : UInt32) : UInt32 :=
  let h := (h ^^^ h >>> 13) * multiplier
  h ^^^ h >>> 15

def murmur2 (key : Bytes) : UInt32 := finish (absorb (seed ^^^ key.length.toUInt32) key)

/-- The hash of a key without its sign bit. -/
def hash (key : Bytes) : Nat := (murmur2 key &&& 0x7fffffff).toNat

/-- The partition of a key among `partitions`, which is positive wherever keys are routed. -/
def index (key : Bytes) (partitions : Nat) : Nat := hash key % partitions

theorem index_lt (key : Bytes) {partitions : Nat} (h : 0 < partitions) :
    index key partitions < partitions := Nat.mod_lt _ h

/-- The partition of a key for any number of partitions: a negative number routes like its
absolute value, and among no partitions there is none to choose. -/
def index? (key : Bytes) (partitions : Int) : Option Nat :=
  if partitions = 0 then none else some (index key partitions.natAbs)

theorem index?_natCast (key : Bytes) {partitions : Nat} (h : 0 < partitions) :
    index? key partitions = some (index key partitions) := by
  simp [index?]; omega

/-! ## In words of 32 bits -/

/-- The remainder of the hash of a key, all in words with a sign. -/
def remainder (key : Bytes) (partitions : Int32) : Int32 :=
  (murmur2 key &&& 0x7fffffff).toInt32 % partitions

theorem hash_lt (key : Bytes) : hash key < 0x80000000 := by
  rw [hash, UInt32.toNat_and]
  exact Nat.lt_succ_of_le Nat.and_le_right

/-- The hash has no sign bit, so it is the same number in a word with a sign. -/
theorem toInt_hash (key : Bytes) : (murmur2 key &&& 0x7fffffff).toInt32.toInt = hash key := by
  have hlt : 2 * (murmur2 key &&& 0x7fffffff).toBitVec.toNat < 2 ^ 32 := by
    have h := hash_lt key
    rw [hash, UInt32.toNat] at h
    omega
  exact BitVec.toInt_eq_toNat_of_lt hlt

/-- So is the remainder, whatever the sign of what is divided by. -/
theorem toInt_remainder (key : Bytes) (partitions : Int32) :
    (remainder key partitions).toInt = index key partitions.toInt.natAbs := by
  rw [remainder, Int32.toInt_mod, toInt_hash, index]
  obtain ⟨n, h | h⟩ := Int.eq_nat_or_neg partitions.toInt
  · rw [h, Int.natAbs_natCast, Int.ofNat_tmod]
  · rw [h, Int.natAbs_neg, Int.natAbs_natCast, Int.tmod_neg, Int.ofNat_tmod]

/-- Among some partitions, it is the number of one of them. -/
theorem toInt_remainder_lt (key : Bytes) {partitions : Int32} (h : 0 < partitions.toInt) :
    0 ≤ (remainder key partitions).toInt ∧
      (remainder key partitions).toInt < partitions.toInt := by
  have hpos : 0 < partitions.toInt.natAbs := by omega
  have hlt := index_lt key hpos
  rw [toInt_remainder]
  omega

end PositionLog.Partitioner
