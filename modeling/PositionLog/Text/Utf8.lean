import PositionLog.Bytes

/-! # UTF-8

Every text has one encoding. Decoding never fails: bytes that encode nothing are shown as U+FFFD,
one for each longest run that could still have begun a character.
-/

namespace PositionLog.Text.Utf8

def encode (s : String) : Bytes := s.toList.flatMap String.utf8EncodeChar

def replacement : Char := '\uFFFD'

/-- How many bytes a lead byte announces after itself, if it can lead a character at all. -/
def announced (lead : UInt8) : Option Nat :=
  if lead < 0x80 then some 0
  else if lead < 0xC2 then none
  else if lead < 0xE0 then some 1
  else if lead < 0xF0 then some 2
  else if lead < 0xF5 then some 3
  else none

def isContinuation (b : UInt8) : Bool := 0x80 ≤ b && b ≤ 0xBF

/-- Whether `b` may come right after `lead`. Overlong forms, surrogates and code points above
U+10FFFF are recognised, and refused, at the second byte. -/
def mayFollow (lead b : UInt8) : Bool :=
  isContinuation b &&
    (lead != 0xE0 || 0xA0 ≤ b) && (lead != 0xED || b ≤ 0x9F) &&
    (lead != 0xF0 || 0x90 ≤ b) && (lead != 0xF4 || b ≤ 0x8F)

/-- The bytes at the front of `r` that carry on the character begun by `lead`, at most `n`. -/
def continuation (lead : UInt8) : (n : Nat) → (r : Bytes) → Bytes
  | n + 1, b :: r => if mayFollow lead b then b :: (r.take n).takeWhile isContinuation else []
  | _, _ => []

/-- The bits of a lead byte that belong to the code point, `n` bytes being announced. -/
def leadBits (lead : UInt8) : (n : Nat) → Nat
  | 0 => lead.toNat
  | n + 1 => lead.toNat % (1 <<< (5 - n))

def codePoint (lead : UInt8) (tail : Bytes) : Nat :=
  tail.foldl (fun n b => n * 64 + b.toNat % 64) (leadBits lead tail.length)

/-- The first character of `lead :: r`, and how many bytes of `r` it takes. -/
def next (lead : UInt8) (r : Bytes) : Char × Nat :=
  match announced lead with
  | none => (replacement, 0)
  | some n =>
    let tail := continuation lead n r
    (if tail.length = n then Char.ofNat (codePoint lead tail) else replacement, tail.length)

/-- Decodes on, after the characters `done`, the last one first. -/
def decodeOnto (done : List Char) : Bytes → List Char
  | [] => done.reverse
  | lead :: r => decodeOnto ((next lead r).1 :: done) (r.drop (next lead r).2)
termination_by b => b.length
decreasing_by simp only [List.length_drop, List.length_cons]; omega

def decodeChars (b : Bytes) : List Char := decodeOnto [] b

def decode (b : Bytes) : String := String.ofList (decodeChars b)

private theorem decodeOnto_eq (done : List Char) :
    (b : Bytes) → decodeOnto done b = done.reverse ++ decodeOnto [] b
  | [] => by simp [decodeOnto]
  | lead :: r => by
    rw [decodeOnto, decodeOnto_eq (_ :: done), decodeOnto, decodeOnto_eq [(next lead r).1]]
    simp
termination_by b => b.length
decreasing_by all_goals simp only [List.length_drop, List.length_cons]; omega

@[simp] theorem decodeChars_nil : decodeChars [] = [] := by simp [decodeChars, decodeOnto]

theorem decodeChars_cons (lead : UInt8) (r : Bytes) :
    decodeChars (lead :: r) = (next lead r).1 :: decodeChars (r.drop (next lead r).2) := by
  rw [decodeChars, decodeOnto, decodeOnto_eq]
  simp [decodeChars]

end PositionLog.Text.Utf8

namespace PositionLog

instance : Payload String := ⟨Text.Utf8.encode⟩

end PositionLog
