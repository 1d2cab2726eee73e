import Mathlib.Data.List.Basic
import Mathlib.Data.List.TakeWhile
import PositionLog.Text.Utf8

/-!
# Decoding what was encoded

Every text is read back from its encoding, so different texts have different encodings.  The
encoding of a character is a lead byte and the base-64 digits of its code point, each marked as a
continuation; the lemmas below say what the decoder makes of such bytes.
-/

namespace PositionLog.Text.Utf8

/-- A base-64 digit as a continuation byte. -/
def digit (d : Nat) : UInt8 := UInt8.ofNat (d + 0x80)

section Bytes

variable {n : Nat} (h : n < 256) (x : UInt8)
include h

theorem ofNat_lt_iff : UInt8.ofNat n < x ↔ n < x.toNat := by
  rw [UInt8.lt_iff_toNat_lt, UInt8.toNat_ofNat_of_lt' h]

theorem le_ofNat_iff : x ≤ UInt8.ofNat n ↔ x.toNat ≤ n := by
  rw [UInt8.le_iff_toNat_le, UInt8.toNat_ofNat_of_lt' h]

theorem ofNat_le_iff : UInt8.ofNat n ≤ x ↔ n ≤ x.toNat := by
  rw [UInt8.le_iff_toNat_le, UInt8.toNat_ofNat_of_lt' h]

theorem ofNat_eq_iff : UInt8.ofNat n = x ↔ n = x.toNat := by
  rw [← UInt8.toNat_inj, UInt8.toNat_ofNat_of_lt' h]

end Bytes

theorem announced_ofNat {n : Nat} (h : n < 256) : announced (UInt8.ofNat n) =
    if n < 0x80 then some 0 else if n < 0xC2 then none else if n < 0xE0 then some 1
    else if n < 0xF0 then some 2 else if n < 0xF5 then some 3 else none := by
  simp only [announced, ofNat_lt_iff h]
  rfl

theorem isContinuation_digit {d : Nat} (h : d < 64) : isContinuation (digit d) := by
  have hd : d + 0x80 < 256 := by omega
  simp only [isContinuation, digit, le_ofNat_iff hd, ofNat_le_iff hd, Bool.and_eq_true,
    decide_eq_true_eq]
  exact ⟨show 0x80 ≤ d + 0x80 by omega, show d + 0x80 ≤ 0xBF by omega⟩

/-- All but four lead bytes may be followed by every digit. -/
theorem mayFollow_digit {n d : Nat} (hn : n < 256) (hd : d < 64)
    (h₁ : n = 0xE0 → 0x20 ≤ d) (h₂ : n = 0xED → d ≤ 0x1F)
    (h₃ : n = 0xF0 → 0x10 ≤ d) (h₄ : n = 0xF4 → d ≤ 0x0F) :
    mayFollow (UInt8.ofNat n) (digit d) := by
  have hd' : d + 0x80 < 256 := by omega
  simp only [mayFollow, isContinuation_digit hd, Bool.true_and]
  simp only [Bool.and_eq_true, Bool.or_eq_true, bne_iff_ne, ne_eq, digit, ofNat_eq_iff hn,
    le_ofNat_iff hd', ofNat_le_iff hd', decide_eq_true_eq]
  change (((¬n = 0xE0 ∨ 0xA0 ≤ d + 0x80) ∧ (¬n = 0xED ∨ d + 0x80 ≤ 0x9F)) ∧
    (¬n = 0xF0 ∨ 0x90 ≤ d + 0x80)) ∧ (¬n = 0xF4 ∨ d + 0x80 ≤ 0x8F)
  omega

theorem toNat_digit_mod {d : Nat} (h : d < 64) : (digit d).toNat % 64 = d := by
  rw [digit, UInt8.toNat_ofNat_of_lt' (by change d + 0x80 < 256; omega)]
  omega

theorem continuation_digits {lead : UInt8} {ds : List Nat} (hds : ∀ d ∈ ds, d < 64)
    (hf : ∀ d ∈ ds.head?, mayFollow lead (digit d)) (r : Bytes) :
    continuation lead ds.length (ds.map digit ++ r) = ds.map digit := by
  cases ds with
  | nil => rfl
  | cons d ds =>
    have hd : mayFollow lead (digit d) := hf d rfl
    have hc : (ds.map digit).takeWhile isContinuation = ds.map digit := by
      apply List.takeWhile_eq_self_iff.mpr
      intro b hb
      obtain ⟨d', hd', rfl⟩ := List.mem_map.mp hb
      exact isContinuation_digit (hds d' (List.mem_cons_of_mem _ hd'))
    have ht : (ds.map digit ++ r).take ds.length = ds.map digit :=
      List.take_left' (List.length_map _)
    simp only [List.map_cons, List.cons_append, List.length_cons, continuation, hd, if_true, ht, hc]

theorem codePoint_digits {lead : UInt8} {ds : List Nat} (hds : ∀ d ∈ ds, d < 64) :
    codePoint lead (ds.map digit) = ds.foldl (· * 64 + ·) (leadBits lead ds.length) := by
  rw [codePoint, List.length_map, List.foldl_map]
  exact List.foldl_ext _ _ _ fun n d hd => by rw [toNat_digit_mod (hds d hd)]

/-- The decoder reads the character whose bits are in a lead byte and the digits after it. -/
theorem decodeChars_digits {n : Nat} (ds : List Nat) {c : Char} (hds : ∀ d ∈ ds, d < 64)
    (ha : announced (UInt8.ofNat n) = some ds.length)
    (hf : ∀ d ∈ ds.head?, mayFollow (UInt8.ofNat n) (digit d))
    (hc : ds.foldl (· * 64 + ·) (leadBits (UInt8.ofNat n) ds.length) = c.toNat) (r : Bytes) :
    decodeChars (UInt8.ofNat n :: ds.map digit ++ r) = c :: decodeChars r := by
  have hn : next (UInt8.ofNat n) (ds.map digit ++ r) = (c, (ds.map digit).length) := by
    simp only [next, ha, continuation_digits hds hf, codePoint_digits hds, hc, Char.ofNat_toNat,
      List.length_map, if_true]
  rw [List.cons_append, decodeChars_cons, hn, List.drop_left]

/-- A code point is no surrogate, and not too large. -/
theorem toNat_scalar (c : Char) : c.toNat < 0xD800 ∨ 0xDFFF < c.toNat ∧ c.toNat < 0x110000 :=
  c.valid

theorem decodeChars_encodeChar (c : Char) (r : Bytes) :
    decodeChars (String.utf8EncodeChar c ++ r) = c :: decodeChars r := by
  have hc := toNat_scalar c
  have hv : c.val.toNat = c.toNat := rfl
  unfold String.utf8EncodeChar
  simp only [hv]
  split
  · have hn : c.toNat < 256 := by omega
    refine decodeChars_digits [] (by simp) ?_ (by simp) ?_ r
    · rw [announced_ofNat hn, if_pos (by omega)]
      rfl
    · exact UInt8.toNat_ofNat_of_lt' hn
  split
  · have hn : c.toNat / 64 % 32 + 0xC0 < 256 := by omega
    refine decodeChars_digits [c.toNat % 64] (by simp; omega) ?_ ?_ ?_ r
    · rw [announced_ofNat hn, if_neg (by omega), if_neg (by omega), if_pos (by omega)]
      rfl
    · rintro d ⟨⟩
      exact mayFollow_digit hn (by omega) (by omega) (by omega) (by omega) (by omega)
    · simp only [List.foldl_cons, List.foldl_nil, List.length_singleton, leadBits,
        Nat.one_shiftLeft, UInt8.toNat_ofNat_of_lt' hn]
      omega
  split
  · have hn : c.toNat / 4096 % 16 + 0xE0 < 256 := by omega
    refine decodeChars_digits [c.toNat / 64 % 64, c.toNat % 64] (by simp; omega) ?_ ?_ ?_ r
    · rw [announced_ofNat hn, if_neg (by omega), if_neg (by omega), if_neg (by omega),
        if_pos (by omega)]
      rfl
    · rintro d ⟨⟩
      exact mayFollow_digit hn (by omega) (by omega) (by omega) (by omega) (by omega)
    · simp only [List.foldl_cons, List.foldl_nil, List.length_cons, List.length_nil, leadBits,
        Nat.one_shiftLeft, UInt8.toNat_ofNat_of_lt' hn]
      omega
  · have hn : c.toNat / 262144 % 8 + 0xF0 < 256 := by omega
    refine decodeChars_digits [c.toNat / 4096 % 64, c.toNat / 64 % 64, c.toNat % 64]
      (by simp; omega) ?_ ?_ ?_ r
    · rw [announced_ofNat hn, if_neg (by omega), if_neg (by omega), if_neg (by omega),
        if_neg (by omega), if_pos (by omega)]
      rfl
    · rintro d ⟨⟩
      exact mayFollow_digit hn (by omega) (by omega) (by omega) (by omega) (by omega)
    · simp only [List.foldl_cons, List.foldl_nil, List.length_cons, List.length_nil, leadBits,
        Nat.one_shiftLeft, UInt8.toNat_ofNat_of_lt' hn]
      omega

theorem decodeChars_flatMap (cs : List Char) (r : Bytes) :
    decodeChars (cs.flatMap String.utf8EncodeChar ++ r) = cs ++ decodeChars r := by
  induction cs with
  | nil => rfl
  | cons c cs ih =>
    rw [List.flatMap_cons, List.append_assoc, decodeChars_encodeChar, ih, List.cons_append]

/-- A text is read back from its encoding. -/
theorem decode_encode (s : String) : decode (encode s) = s := by
  have h := decodeChars_flatMap s.toList []
  rw [List.append_nil, decodeChars_nil, List.append_nil] at h
  rw [decode, encode, h, String.ofList_toList]

theorem encode_injective {s t : String} (h : encode s = encode t) : s = t := by
  rw [← decode_encode s, h, decode_encode]

end PositionLog.Text.Utf8
