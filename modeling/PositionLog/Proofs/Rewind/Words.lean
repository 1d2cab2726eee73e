import PositionLog.Proofs.Broker.Assignment

/-!
# Offsets are words

An offset is a signed word, and a depth an unsigned one, which may be greater than any offset.  So
the depth is cut to the greatest offset before it is taken off the end, and what would be too small
for a word becomes the smallest one.  Nothing of this shows: where a partition is read from is the
same as if numbers had no bounds.
-/

namespace PositionLog.Rewind

/-- A depth as an offset, or the greatest offset if it is greater than that. -/
def capped (depth : UInt64) : Int64 :=
  if depth.toNat ≤ maxOffset then .ofNat depth.toNat else .maxValue

/-- The difference of two offsets, or the word that comes closest to it. -/
def saturatingSub (a b : Int64) : Int64 :=
  if a.toBitVec.ssubOverflow b.toBitVec then
    if a < 0 then .minValue else .maxValue
  else a - b

/-- Where to start in a partition, found with words alone. -/
def wordTarget (depth : UInt64) (end_ : Int64) : Option Int64 :=
  let start := saturatingSub end_ (capped depth)
  if 0 ≤ start then some start else none

theorem toInt_capped (depth : UInt64) : (capped depth).toInt = min depth.toNat maxOffset := by
  have hmax := maxOffset_eq
  unfold capped
  split
  · rename_i h
    rw [Int64.toInt_ofNat_of_lt (by omega)]
    omega
  · rw [Int64.toInt_maxValue]
    omega

theorem toInt_saturatingSub (a b : Int64) :
    (saturatingSub a b).toInt = max (-2 ^ 63) (min (a.toInt - b.toInt) (2 ^ 63 - 1)) := by
  have ha := a.le_toInt
  have ha' := a.toInt_lt
  have hb := b.le_toInt
  have hb' := b.toInt_lt
  have hover : a.toBitVec.ssubOverflow b.toBitVec = true ↔
      2 ^ 63 ≤ a.toInt - b.toInt ∨ a.toInt - b.toInt < -2 ^ 63 := by
    simp [BitVec.ssubOverflow]
  unfold saturatingSub
  by_cases h : a.toBitVec.ssubOverflow b.toBitVec = true
  · rw [if_pos h]
    -- The difference of words of the same sign is a word, so the sign tells the side.
    by_cases hneg : a < 0
    · rw [if_pos hneg, Int64.toInt_minValue]
      rw [Int64.lt_iff_toInt_lt, Int64.toInt_zero] at hneg
      have := hover.mp h
      omega
    · rw [if_neg hneg, Int64.toInt_maxValue]
      rw [Int64.lt_iff_toInt_lt, Int64.toInt_zero] at hneg
      have := hover.mp h
      omega
  · rw [if_neg h, Int64.toInt_sub, Int.bmod_eq_of_le]
    all_goals
      have := mt hover.mpr h
      omega

/-- Words come to the same as numbers without bounds. -/
theorem target_toInt (depth : UInt64) (end_ : Int64) :
    (⟨depth.toNat⟩ : Rewind).target end_.toInt =
      (wordTarget depth end_).map fun start => start.toInt.toNat := by
  have hend := end_.le_toInt
  have hend' := end_.toInt_lt
  have hmax := maxOffset_eq
  have hstart := toInt_saturatingSub end_ (capped depth)
  rw [toInt_capped] at hstart
  unfold target wordTarget
  simp only [Int64.le_iff_toInt_le, Int64.toInt_zero]
  by_cases h : 0 ≤ (saturatingSub end_ (capped depth)).toInt
  · rw [if_pos h, if_pos (by omega), Option.map_some]
    congr 1
    omega
  · rw [if_neg h, if_neg (by omega), Option.map_none]

/-- A place to start that is found is not negative. -/
theorem nonneg_of_wordTarget {depth : UInt64} {end_ start : Int64}
    (h : wordTarget depth end_ = some start) : 0 ≤ start := by
  obtain ⟨hle, hstart⟩ := Option.ite_none_right_eq_some.mp h
  exact Option.some.inj hstart ▸ hle

/-! ## How much is read back -/

section Target

variable (r : Rewind) (end_ : Int)

/-- There is a place to start unless fewer records are there. -/
theorem isSome_target_iff : (r.target end_).isSome ↔ (r.reach : Int) ≤ end_ := by
  rw [target_eq]
  split <;> simp [*]

/-- A partition without such a place is read from its start. -/
theorem getD_target : (((r.target end_).getD 0 : Nat) : Int) = max 0 (end_ - r.reach) := by
  rw [target_eq]
  split
  · rw [Option.getD_some, Int.toNat_eq_max, max_comm]
  · rw [Option.getD_none]
    omega

end Target

/-- The place to start is found with words alone: the difference of the end and the depth may be too
small for a word, but then it is negative, and so is the word in its stead.  Between the place, or
the start of the partition if there is none, and the end are as many records as are to be read back,
or all if there are fewer. -/
theorem target_exact (depth : UInt64) (end_ : Int64) :
    let target := (⟨depth.toNat⟩ : Rewind).target end_.toInt
    let start : Int := (target.getD 0 : Nat)
    target = (wordTarget depth end_).map (fun s => s.toInt.toNat) ∧
    (saturatingSub end_ (capped depth)).toInt =
      max (-2 ^ 63) (end_.toInt - min depth.toNat (2 ^ 63 - 1)) ∧
    (∀ s, wordTarget depth end_ = some s → 0 ≤ s) ∧
    (0 ≤ end_ → start = max 0 (end_.toInt - depth.toNat) ∧
      end_.toInt - start = min end_.toInt depth.toNat) ∧
    (end_ < 0 → target = none) ∧
    (depth.toNat ≤ 2 ^ 63 - 1 → (target.isSome ↔ 0 ≤ end_ ∧ depth.toNat ≤ end_.toInt)) := by
  intro target start
  have hend := end_.le_toInt
  have hend' := end_.toInt_lt
  have hreach : (⟨depth.toNat⟩ : Rewind).reach = min depth.toNat (2 ^ 63 - 1) := rfl
  have hstart : start = max 0 (end_.toInt - (⟨depth.toNat⟩ : Rewind).reach) := getD_target _ _
  have hsome : target.isSome ↔ _ := isSome_target_iff ⟨depth.toNat⟩ end_.toInt
  have hsub := toInt_saturatingSub end_ (capped depth)
  rw [toInt_capped, maxOffset_eq] at hsub
  rw [hreach] at hstart hsome
  rw [Int64.le_iff_toInt_le, Int64.lt_iff_toInt_lt, Int64.toInt_zero]
  refine ⟨target_toInt depth end_, ?_, fun s => nonneg_of_wordTarget, ?_, ?_, ?_⟩
  · omega
  · intro h
    omega
  · intro h
    rw [← Option.not_isSome_iff_eq_none, hsome]
    omega
  · intro h
    rw [hsome]
    omega

/-- Neither the greatest depth and the greatest offset, nor the greatest depth and the smallest
offset, are too much for a word. -/
theorem target_exact_of_greatest :
    (⟨18446744073709551615⟩ : Rewind).target 9223372036854775807 = some 0 ∧
      (⟨18446744073709551615⟩ : Rewind).target (-9223372036854775808) = none ∧
      ((⟨3⟩ : Rewind).target 5).isSome := by
  have hdepth : (18446744073709551615 : UInt64).toNat = 18446744073709551615 := rfl
  have hlast : Int64.maxValue.toInt = 9223372036854775807 := rfl
  have hfirst : Int64.minValue.toInt = -9223372036854775808 := rfl
  obtain ⟨hgreatest, -⟩ := target_exact 18446744073709551615 .maxValue
  obtain ⟨-, -, -, -, hsmallest, -⟩ := target_exact 18446744073709551615 .minValue
  obtain ⟨-, -, -, -, -, hsome⟩ := target_exact 3 5
  refine ⟨?_, ?_, ?_⟩
  · rw [hdepth, hlast] at hgreatest
    rw [hgreatest]
    decide
  · exact hsmallest (by decide)
  · exact (hsome (by decide)).mpr (by decide)

end PositionLog.Rewind
