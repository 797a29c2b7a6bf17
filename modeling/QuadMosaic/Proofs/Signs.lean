import QuadMosaic.Proofs.Double

/-!
# The sign of an integer through rounding

A sample above zero stays above zero when it becomes a double, when doubles are compared, and when
the double is rounded to an integer or to fewer bits; a sample that is not above zero never becomes
so.

What the other files use are the laws of `SignedScalar`, which hold of the rationals as well.
-/

namespace QuadMosaic

namespace Double

open Float.Model (Format UnpackedFloat totalExponent)
open Float.Model.UnpackedFloat

/-! ## Positive doubles -/

/-- A double above zero. -/
def Positive (x : Float) : Prop :=
  (∃ m e, ∃ h : 0 < m, x.toModel.unpack = .finite .positive m e h) ∨
    x.toModel.unpack = .infinity .positive

theorem Positive.lt_zero {x : Float} (h : Positive x) : Scalar.lt Scalar.zero x = true := by
  rw [lt_eq, unpack_zero]
  rcases h with ⟨m, e, hm, hu⟩ | hu <;> rw [hu] <;> rfl

theorem Signed.positive {b : Int} {x : Float} (h : Signed .positive b x) : Positive x := by
  rcases h with ⟨m, e, hm, hu, -⟩ | ⟨hu, -⟩
  · exact .inl ⟨m, e, hm, hu⟩
  · exact .inr hu

/-- A double whose bits are an exponent alone. -/
theorem unpack_ofBits {b : UInt64} {p : Nat} (hb : b.toNat = p * Binary64.hidden) (hp : 0 < p)
    (hp' : p < 2047) :
    (Float.ofBits b).toModel.unpack = .finite .positive (2 ^ 52) (p - 1075) (by decide) := by
  have hparts := partsOf_unpack b.toBitVec
  rw [UInt64.toNat_toBitVec, hb, Nat.mul_mod_left,
    Nat.mul_div_cancel _ (by decide : 0 < Binary64.hidden),
    Nat.mod_eq_of_lt (by omega), if_neg (by omega), if_neg (by omega),
    decide_eq_false (by unfold Binary64.hidden; omega)] at hparts
  have hfinite : unpack .binary64 b.toBitVec =
      .finite .positive (2 ^ 52) (p - 1075) (by decide) := by
    revert hparts
    generalize (unpack .binary64 b.toBitVec) = u
    intro hparts
    rcases u with s | _ | s | ⟨s, m, e, hm⟩ <;> simp only [partsOf] at hparts
    · cases hparts
    · cases hparts
    · simp [Binary64.hidden] at hparts
    · simp only [Binary64.finite.injEq] at hparts
      obtain ⟨hs, hm', he⟩ := hparts
      obtain rfl : s = .positive := by cases s <;> simp_all [isMinus]
      simp only [UnpackedFloat.finite.injEq, true_and]
      exact ⟨hm', by omega⟩
  change unpack .binary64 (pack .binary64 (unpack .binary64 b.toBitVec)) = _
  rw [hfinite]
  exact unpack_pack_of_le _ (by decide) (by decide) (by omega) (by omega)

/-- Two to a power as a double. -/
theorem unpack_powerOfTwo {k : Int} (h : -1022 ≤ k) (h' : k ≤ 1023) :
    (Binary64.powerOfTwo k).toModel.unpack =
      .finite .positive (2 ^ 52) (k - 52) (by decide) := by
  have hlt : (k + 1023).toNat * Binary64.hidden < 2 ^ 64 := by
    unfold Binary64.hidden
    omega
  rw [Binary64.powerOfTwo, unpack_ofBits (p := (k + 1023).toNat)
    (by rw [UInt64.toNat_ofNat', Nat.mod_eq_of_lt hlt]) (by omega) (by omega)]
  simp only [UnpackedFloat.finite.injEq, true_and]
  omega

/-- A positive double of an integer times a power of two is positive. -/
theorem positive_mul_powerOfTwo {b : Int} {x : Float} {k : Int} (hx : Signed .positive b x)
    (h : -900 ≤ k) (h' : k ≤ 1023) : Positive (x * Binary64.powerOfTwo k) := by
  have hk := unpack_powerOfTwo (by omega : -1022 ≤ k) h'
  have hproduct : (x * Binary64.powerOfTwo k).toModel =
      Float.Model.pack (mul .binary64 x.toModel.unpack (Binary64.powerOfTwo k).toModel.unpack) :=
    rfl
  rw [hk] at hproduct
  have hunpack : (x * Binary64.powerOfTwo k).toModel.unpack = unpack .binary64 (pack .binary64
    (mul .binary64 x.toModel.unpack (.finite .positive (2 ^ 52) (k - 52) (by decide)))) := by
    rw [hproduct]
    rfl
  rcases hx with ⟨m, e, hm, hu, h₁, h₂, h₃, h₄⟩ | ⟨hu, -⟩
  · have hnormal := roundWithAccuracy_normal .positive (m := m * 2 ^ 52) (e := e + (k - 52))
      (by omega) (by omega)
    rw [hu] at hunpack
    change _ = unpack .binary64 (pack .binary64
      (roundWithAccuracy .binary64 .positive (m * 2 ^ 52) (e + (k - 52)) .exact)) at hunpack
    rcases hnormal.unpack_pack (by omega) with hkeep | ⟨hkeep, -⟩
    · rw [hkeep] at hunpack
      obtain ⟨m', e', hm', hu', -⟩ := hnormal
      exact .inl ⟨m', e', hm', hunpack.trans hu'⟩
    · exact .inr (hunpack.trans hkeep)
  · rw [hu] at hunpack
    right
    rw [hunpack]
    exact unpack_infinity .positive

theorem Signed.parts {b : Int} {x : Float} (h : Signed .positive b x) :
    (∃ m : Nat, ∃ e : Int, Binary64.ofFloat x = .finite false m e ∧ 2 ^ 52 ≤ m ∧ m < 2 ^ 53 ∧
      -52 ≤ e) ∨ Binary64.ofFloat x = .infinite false := by
  rw [ofFloat_eq]
  rcases h with ⟨m, e, hm, hu, h₁, h₂, h₃, -⟩ | ⟨hu, -⟩
  · exact .inl ⟨m, e, by rw [hu]; rfl, h₁, h₂, h₃⟩
  · exact .inr (by rw [hu]; rfl)

theorem div_le_nearestShift (m k : Nat) : (m / 2 ^ k : Nat) ≤ Binary64.nearestShift m k := by
  have hdiv : ((m / 2 ^ k : Nat) : Int) = (m : Int) / (Nat.pow 2 k : Nat) := Int.natCast_div _ _
  unfold Binary64.nearestShift
  simp only
  rw [hdiv]
  split
  · exact Int.le_refl _
  · split
    · omega
    · split <;> omega

/-- The nearest integer of a positive double of an integer. -/
theorem nearest_of_signed {b : Int} {x : Float} (h : Signed .positive b x) :
    (∃ n : Int, 0 < n ∧ Scalar.nearest x = .whole n) ∨ Scalar.nearest x = .infinite false := by
  rw [nearest_eq]
  rcases h.parts with ⟨m, e, hx, h₁, -, h₃⟩ | hx <;> rw [hx]
  · left
    refine ⟨_, ?_, rfl⟩
    simp only [Binary64.signed]
    split
    · exact Int.mul_pos (by simp; omega) (Binary64.twoPow_pos _)
    · have hle := div_le_nearestShift m (-e).toNat
      have hpos : 0 < m / 2 ^ (-e).toNat := by
        refine Nat.div_pos ?_ (Nat.two_pow_pos _)
        exact Nat.le_trans (Nat.pow_le_pow_right (by decide) (by omega)) h₁
      simp
      omega
  · exact .inr rfl

theorem positive_one_div_zero : Positive (1.0 / 0.0) := .inr (by rfl)

/-- A positive double of an integer stays positive in less precision. -/
theorem narrowed_positive {bits : Nat} {least top b : Int} {x : Float} (h : Signed .positive b x)
    (hbits : 1 ≤ bits) (hbits' : bits ≤ 53) (hleast : -900 ≤ least) (hleast' : least ≤ 1 - bits)
    (htop : top ≤ 1023) : Positive (Binary64.narrowed bits least top x) := by
  unfold Binary64.narrowed
  rcases h.parts with ⟨m, e, hx, h₁, h₂, h₃⟩ | hx <;> rw [hx]
  · simp only [log2_eq h₁ h₂]
    generalize hunit : max (((52 : Nat) : Int) + e + 1 - bits) least = unit
    generalize hunits : (if unit ≤ e then m * Nat.pow 2 (e - unit).toNat
      else (Binary64.nearestShift m (unit - e).toNat).toNat) = units
    have hpos : units ≠ 0 := by
      rw [← hunits]
      split
      · exact Nat.mul_ne_zero (by omega) (Nat.ne_of_gt (Nat.two_pow_pos _))
      · have hle := div_le_nearestShift m (unit - e).toNat
        have hpos : 0 < m / 2 ^ (unit - e).toNat := by
          refine Nat.div_pos ?_ (Nat.two_pow_pos _)
          exact Nat.le_trans (Nat.pow_le_pow_right (by decide) (by omega)) h₁
        omega
    rw [if_neg (by decide)]
    split
    · exact positive_one_div_zero
    · exact positive_mul_powerOfTwo (signed_ofNat hpos) (by omega) (by omega)
  · exact h.positive

end Double

/-- A kind of number in which the sign of an integer is kept by comparing and by rounding. -/
class SignedScalar (α : Type) [Scalar α] : Prop extends LawfulScalar α where
  isNaN_ofInt (n : Int) : Scalar.isNaN (Scalar.ofInt n : α) = false
  lt_ofInt {m n : Int} : 0 < m → n ≤ 0 → Scalar.lt (Scalar.ofInt m : α) (Scalar.ofInt n) = false
  nearest_zero : Scalar.nearest (Scalar.zero : α) = .whole 0
  nearest_ofInt {n : Int} : 0 < n →
    (∃ m, 0 < m ∧ Scalar.nearest (Scalar.ofInt n : α) = .whole m) ∨
      Scalar.nearest (Scalar.ofInt n : α) = .infinite false
  toSingle_ofInt {n : Int} : 0 < n →
    Scalar.lt Scalar.zero (Scalar.toSingle (Scalar.ofInt n : α)) = true
  toHalf_ofInt {n : Int} : 0 < n →
    Scalar.lt Scalar.zero (Scalar.toHalf (Scalar.ofInt n : α)) = true

namespace Double

open Float.Model.UnpackedFloat

theorem signed_of_pos {n : Int} (h : 0 < n) :
    Signed .positive (max 2 (n.natAbs.log2 - 51)) (Float.ofInt n) := by
  have := signed_ofInt (Int.ne_of_gt h)
  rwa [if_pos h] at this

theorem isNaN_ofInt (n : Int) : Scalar.isNaN (Float.ofInt n) = false := by
  change (Float.ofInt n).toModel.unpack.isNaN = false
  by_cases hn : n = 0
  · subst hn
    rfl
  · rcases signed_ofInt hn with ⟨m, e, hm, hu, -⟩ | ⟨hu, -⟩ <;> rw [hu] <;> rfl

theorem lt_ofInt {m n : Int} (hm : 0 < m) (hn : n ≤ 0) :
    Scalar.lt (Float.ofInt m) (Float.ofInt n) = false := by
  rw [lt_eq]
  rcases (signed_of_pos hm).positive with ⟨_, _, _, hu⟩ | hu <;> rw [hu]
  all_goals
    rcases Int.lt_or_eq_of_le hn with hn | rfl
    · have hsigned := signed_ofInt (Int.ne_of_lt hn)
      rw [if_neg (by omega)] at hsigned
      rcases hsigned with ⟨_, _, _, hv, -⟩ | ⟨hv, -⟩ <;> rw [hv] <;> rfl
    · rfl

instance instSignedScalarFloat : SignedScalar Float where
  isNaN_ofInt := isNaN_ofInt
  lt_ofInt := lt_ofInt
  nearest_zero := by decide +kernel
  nearest_ofInt h := nearest_of_signed (signed_of_pos h)
  toSingle_ofInt h := (narrowed_positive (signed_of_pos h) (by decide) (by decide) (by decide)
    (by decide) (by decide)).lt_zero
  toHalf_ofInt h := (narrowed_positive (signed_of_pos h) (by decide) (by decide) (by decide)
    (by decide) (by decide)).lt_zero

end Double

theorem nearestRat_intCast (n : Int) : Scalar.nearestRat n = n := by
  unfold Scalar.nearestRat
  simp

instance instSignedScalarRat : SignedScalar Rat where
  isNaN_ofInt _ := rfl
  lt_ofInt hm hn := decide_eq_false (by
    change ¬ ((_ : Int) : Rat) < ((_ : Int) : Rat)
    rw [Rat.intCast_lt_intCast]
    omega)
  nearest_zero := by decide +kernel
  nearest_ofInt {n} h := .inl ⟨n, h, congrArg Rounded.whole (nearestRat_intCast n)⟩
  toSingle_ofInt h := decide_eq_true (Rat.intCast_pos.2 h)
  toHalf_ofInt h := decide_eq_true (Rat.intCast_pos.2 h)

end QuadMosaic
