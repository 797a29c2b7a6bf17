import QuadMosaic.Proofs.Signs
import QuadMosaic.Proofs.Members
import QuadMosaic.Proofs.Steps

/-!
# Bounds of numbers in data

A schema compares a number as it is written; the options hold the double or the integer that it is
taken for.  A positive integer is a positive double, however large it is.  A double between minus
sixty and sixty has an integer part between them: doubles are compared by their exponents first, and
a lesser exponent means a lesser number since no significand has more than 53 bits.
-/

namespace QuadMosaic

namespace Double

open Float.Model (UnpackedFloat)
open Float.Model.UnpackedFloat

/-! ## Doubles -/

theorem Positive.not_le_zero {x : Float} (h : Positive x) : decide (x ≤ Scalar.zero) = false := by
  rw [le_eq, unpack_zero]
  rcases h with ⟨m, e, hm, hu⟩ | hu <;> rw [hu] <;> rfl

theorem unpack_sixty : (Float.ofInt 60).toModel.unpack =
    .finite .positive (60 * 2 ^ 47) (-47) (by decide) := by
  rfl

theorem unpack_neg_sixty : (Float.ofInt (-60)).toModel.unpack =
    .finite .negative (60 * 2 ^ 47) (-47) (by decide) := by
  rfl

/-- The integer part of a double that is less than its significand. -/
theorem truncate_of_parts {x : Float} {negative : Bool} {m : Nat} {e : Int}
    (hparts : Binary64.ofFloat x = .finite negative m e) (he : e < 0)
    (hsign : Scalar.lt x Scalar.zero = (negative && m != 0)) :
    Scalar.truncate x = .whole (Binary64.signed negative (m / 2 ^ (-e).toNat)) := by
  unfold Scalar.truncate
  rw [hsign, floor_eq, ceil_eq, hparts]
  simp only [Binary64.roundWith, Int.not_le.2 he, if_false, Binary64.floorShift]
  by_cases hm : m = 0
  · subst hm
    cases negative <;> simp [Binary64.signed]
  · cases negative <;> simp [Binary64.signed, hm]

/-- A significand that is not more than that of sixty is at most sixty units. -/
theorem units_le_sixty {m : Nat} {e : Int} (hm : m < 2 ^ 53)
    (h : e < -47 ∨ e = -47 ∧ m ≤ 60 * 2 ^ 47) : e < 0 ∧ m / 2 ^ (-e).toNat ≤ 60 := by
  rcases h with he | ⟨rfl, hm'⟩
  · have hpow : 2 ^ 48 ≤ 2 ^ (-e).toNat := Nat.pow_le_pow_right (by decide) (by omega)
    exact ⟨by omega, Nat.le_trans (Nat.div_le_div_left hpow (by decide)) (by omega)⟩
  · refine ⟨by decide, ?_⟩
    change m / 2 ^ 47 ≤ 60
    omega

theorem cases_of_not_lt_positive {m n : Nat} {e k : Int} (hm : 0 < m) (hn : 0 < n)
    (h : (UnpackedFloat.finite .positive n k hn).lt (.finite .positive m e hm) = false) :
    e < k ∨ e = k ∧ m ≤ n := by
  have hcompare : (compare k e).then (compare n m) ≠ .lt := by
    simpa [UnpackedFloat.lt, UnpackedFloat.compare] using h
  rw [ne_eq, Ordering.then_eq_lt, compare_lt_iff_lt, compare_eq_iff_eq,
    compare_lt_iff_lt] at hcompare
  omega

theorem cases_of_not_lt_negative {m n : Nat} {e k : Int} (hm : 0 < m) (hn : 0 < n)
    (h : (UnpackedFloat.finite .negative m e hm).lt (.finite .negative n k hn) = false) :
    e < k ∨ e = k ∧ m ≤ n := by
  have hcompare : ((compare e k).then (compare m n)).swap ≠ .lt := by
    simpa [UnpackedFloat.lt, UnpackedFloat.compare] using h
  rw [ne_eq, Ordering.swap_eq_lt, Ordering.then_eq_gt, compare_gt_iff_gt, compare_eq_iff_eq,
    compare_gt_iff_gt] at hcompare
  omega

/-- The integer part of a double between minus sixty and sixty lies between these as well. -/
theorem truncate_mem {x : Float} {n : Int} (hlow : Scalar.lt x (Float.ofInt (-60)) = false)
    (hhigh : Scalar.lt (Float.ofInt 60) x = false) (h : Json.truncate x = .ok n) :
    -60 ≤ n ∧ n ≤ 60 := by
  have hparts := ofFloat_eq x
  have hsign := lt_eq x Scalar.zero
  rw [lt_eq, unpack_neg_sixty] at hlow
  rw [lt_eq, unpack_sixty] at hhigh
  rw [unpack_zero] at hsign
  unfold Json.truncate at h
  cases hu : x.toModel.unpack with
  | notANumber =>
    rw [Scalar.truncate, floor_eq, ceil_eq, hparts, hu] at h
    split at h <;> cases h
  | infinity s =>
    rw [Scalar.truncate, floor_eq, ceil_eq, hparts, hu] at h
    split at h <;> cases h
  | zero s =>
    rw [hu] at hparts hsign
    rw [truncate_of_parts hparts (by decide) (by cases s <;> exact hsign), Nat.zero_div] at h
    -- both zeros have the integer part zero
    cases s <;> cases h <;> decide
  | finite s m e hm =>
    rw [hu] at hparts hlow hhigh hsign
    have hm' := significand_lt hparts
    have hsign' : Scalar.lt x Scalar.zero = (isMinus s && m != 0) := by
      rw [hsign, bne_iff_ne.2 (Nat.ne_of_gt hm)]
      cases s <;> rfl
    have hcases : e < -47 ∨ e = -47 ∧ m ≤ 60 * 2 ^ 47 := by
      cases s with
      | positive => exact cases_of_not_lt_positive hm _ hhigh
      | negative => exact cases_of_not_lt_negative hm _ hlow
    obtain ⟨he, hle⟩ := units_le_sixty hm' hcases
    rw [truncate_of_parts hparts he hsign'] at h
    generalize m / 2 ^ (-e).toNat = units at hle h
    obtain rfl : Binary64.signed (isMinus s) units = n := by simpa [Scalar.toInt] using h
    cases s <;> simp only [Binary64.signed, isMinus, if_true, Bool.false_eq_true, if_false] <;>
      omega

end Double

/-! ## Values -/

namespace Json

open Schema

variable {value : Json}

theorem toReal_of_toReal? {x : Float} (h : value.toReal? = .ok (some x)) :
    value ≠ .null ∧ value.toReal = .ok x := by
  cases value with
  | null => cases h
  | _ => exact ⟨Json.noConfusion, eq_ok_of_map_some h⟩

theorem toInt_of_toInt? {n : Int} (h : value.toInt? = .ok (some n)) :
    value ≠ .null ∧ value.toInt = .ok n := by
  cases value with
  | null => cases h
  | _ => exact ⟨Json.noConfusion, eq_ok_of_map_some h⟩

/-- A number above zero stays above zero as a double. -/
theorem isAtMost_zero_of_toReal {x : Float} (hkind : Kind.number.holds value)
    (h : isAtMost value 0 = false) (hx : value.toReal = .ok x) : isAtMost (.real x) 0 = false := by
  cases value with
  | int n =>
    have hn : 0 < n := by simpa [isAtMost] using h
    obtain rfl : x = Float.ofInt n := by
      change Scalar.ofWhole n = .ok x at hx
      unfold Scalar.ofWhole at hx
      split at hx
      · exact (Except.ok.inj hx).symm
      · cases hx
    exact (Double.signed_of_pos hn).positive.not_le_zero
  | real y =>
    cases hx
    exact h
  | _ => cases hkind

/-- A zone of the schema stays one when it is taken for an integer. -/
theorem mem_of_toInt {n : Int} (hkind : Kind.integer.holds value)
    (hlow : isBelow value (-60) = false) (hhigh : isAbove value 60 = false)
    (hn : value.toInt = .ok n) : -60 ≤ n ∧ n ≤ 60 := by
  cases value with
  | int k =>
    cases hn
    simp only [isBelow, isAbove, decide_eq_false_iff_not] at hlow hhigh
    omega
  | real x => exact Double.truncate_mem hlow hhigh hn
  | _ => cases hkind

end Json

end QuadMosaic
