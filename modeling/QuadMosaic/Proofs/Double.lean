import Mathlib
import QuadMosaic.Scalar

/-!
# Integers as doubles

Corners of boxes and samples of pixels are integers; formulas turn them into the nearest doubles.
This file follows that conversion through the bits of a double: an integer other than zero becomes
a number of its sign with a full significand, or an infinity when it has more than 1023 bits.
Rounding reads a double by its bits, while the arithmetic of doubles has a form of its own; both are
shown to see the same parts.

What the other files use of it are the laws of `LawfulScalar`, which hold of the rationals as well,
and `Double.ofWhole_eq_ok`, by which no integer below `2 ^ 1023` is out of range.
-/

namespace QuadMosaic

/-- A kind of number in which an integer keeps its sign, and zero stays zero in less precision. -/
class LawfulScalar (α : Type) [Scalar α] : Prop where
  lt_zero_ofInt (n : Int) : Scalar.lt (Scalar.zero : α) (Scalar.ofInt n) = decide (0 < n)
  eq_ofInt_zero (n : Int) : Scalar.eq (Scalar.ofInt n) (Scalar.zero : α) = decide (n = 0)
  toSingle_zero : Scalar.toSingle (Scalar.zero : α) = Scalar.zero
  toHalf_zero : Scalar.toHalf (Scalar.zero : α) = Scalar.zero

theorem LawfulScalar.eq_ofInt_zero_of_ne {α : Type} [Scalar α] [LawfulScalar α] {n : Int}
    (h : n ≠ 0) : Scalar.eq (Scalar.ofInt n) (Scalar.zero : α) = false :=
  (eq_ofInt_zero n).trans (decide_eq_false h)

instance instLawfulScalarRat : LawfulScalar Rat where
  lt_zero_ofInt _ := decide_eq_decide.2 Rat.intCast_pos
  eq_ofInt_zero _ := decide_eq_decide.2 Rat.intCast_eq_zero_iff
  toSingle_zero := rfl
  toHalf_zero := rfl

namespace Double

open Float.Model (Format UnpackedFloat totalExponent)
open Float.Model.UnpackedFloat

/-- A finite number of a given sign whose significand fills all its bits and whose exponent lies
between two bounds. -/
def Normal (s : Sign) (least greatest : Int) (u : UnpackedFloat) : Prop :=
  ∃ m e, ∃ h : 0 < m, u = .finite s m e h ∧ 2 ^ 52 ≤ m ∧ m < 2 ^ 53 ∧ least ≤ e ∧ e ≤ greatest

theorem Normal.mono {s : Sign} {a b a' b' : Int} {u : UnpackedFloat} (h : Normal s a b u)
    (ha : a' ≤ a) (hb : b ≤ b') : Normal s a' b' u := by
  obtain ⟨m, e, hm, rfl, h₁, h₂, h₃, h₄⟩ := h
  exact ⟨m, e, hm, rfl, h₁, h₂, by omega, by omega⟩

theorem log2_eq {m k : Nat} (h₁ : 2 ^ k ≤ m) (h₂ : m < 2 ^ (k + 1)) : m.log2 = k := by
  have hm : m ≠ 0 := by have := Nat.two_pow_pos k; omega
  have hle := (Nat.le_log2 hm).2 h₁
  have hlt := (Nat.log2_lt hm).2 h₂
  omega

/-! ## Rounding a significand -/

/-- Shifting halves the significand once for each place. -/
theorem mantissa_shiftRight (em : ExtendedMantissa) (n : Nat) :
    (em >>> n).mantissa = em.mantissa / 2 ^ n := by
  change (n.repeat ExtendedMantissa.shiftRightOne em).mantissa = _
  induction n with
  | zero => simp [Nat.repeat]
  | succ n ih =>
    rw [Nat.repeat, Nat.pow_succ, ← Nat.div_div_eq_div_mul, ← ih]
    rfl

/-- Rounding takes a significand to itself or to the next one. -/
theorem roundedMantissa_mem (em : ExtendedMantissa) :
    em.mantissa ≤ em.roundedMantissa ∧ em.roundedMantissa ≤ em.mantissa + 1 := by
  obtain ⟨m, roundBit, stickyBit⟩ := em
  cases roundBit <;> cases stickyBit <;>
    simp only [ExtendedMantissa.roundedMantissa, ExtendedMantissa.accuracy,
      Accuracy.roundToNearestEven] <;> omega

theorem targetExponent_eq {m : Nat} {e : Int} (h : -1074 ≤ m.log2 + e - 52) :
    Format.binary64.targetExponent (totalExponent m e) = m.log2 + e - 52 := by
  have h₁ : Format.binary64.minExponent = -1074 := by decide
  have h₂ : (Format.binary64.mantissaBits : Int) = 53 := by decide
  rw [Format.targetExponent, totalExponent, h₁, h₂]
  omega

/-- What has 53 bits, or is the next power of two, is shifted by one place at most. -/
theorem shiftToTargetExponent_normal (s : Sign) {m : Nat} {e : Int} (h₁ : 2 ^ 52 ≤ m)
    (h₂ : m ≤ 2 ^ 53) (he : -1074 ≤ e) :
    Normal s e (e + 1)
      (if h : (shiftToTargetExponent .binary64 m e .exact).1.mantissa = 0 then .zero s
      else .finite s (shiftToTargetExponent .binary64 m e .exact).1.mantissa
        (shiftToTargetExponent .binary64 m e .exact).2 (Nat.pos_of_ne_zero h)) := by
  have hlog : 52 ≤ m.log2 := (Nat.le_log2 (by omega)).2 h₁
  have hmantissa : (shiftToTargetExponent .binary64 m e .exact).1.mantissa =
      m / 2 ^ (m.log2 - 52) := by
    simp only [shiftToTargetExponent, shiftToExponent, mantissa_shiftRight]
    rw [targetExponent_eq (by omega), show (m.log2 + e - 52 - e).toNat = m.log2 - 52 by omega]
    rfl
  have hexponent : (shiftToTargetExponent .binary64 m e .exact).2 = e + (m.log2 - 52 : Nat) := by
    simp only [shiftToTargetExponent, shiftToExponent]
    rw [targetExponent_eq (by omega), show (m.log2 + e - 52 - e).toNat = m.log2 - 52 by omega]
  have hbound : 2 ^ 52 ≤ m / 2 ^ (m.log2 - 52) ∧ m / 2 ^ (m.log2 - 52) < 2 ^ 53 ∧
      m.log2 - 52 ≤ 1 := by
    rcases Nat.lt_or_ge m (2 ^ 53) with hlt | hge
    · rw [log2_eq h₁ hlt]
      omega
    · rw [show m = 2 ^ 53 by omega, Nat.log2_two_pow]
      decide
  rw [dif_neg (by rw [hmantissa]; omega)]
  exact ⟨_, _, _, rfl, by rw [hmantissa]; exact hbound.1, by rw [hmantissa]; exact hbound.2.1,
    by omega, by omega⟩

/-- Rounding a significand with enough bits fills a double: the exponent is that of the leading
bit, or one more when the rounding carries. -/
theorem roundWithAccuracy_normal (s : Sign) {m : Nat} {e : Int} (hm : 2 ^ 52 ≤ m)
    (he : -1074 ≤ e) :
    Normal s (m.log2 + e - 52) (m.log2 + e - 51)
      (roundWithAccuracy .binary64 s m e .exact) := by
  have hm₀ : m ≠ 0 := by omega
  obtain ⟨k, hk⟩ := Nat.exists_eq_add_of_le ((Nat.le_log2 hm₀).2 hm)
  have hlow : 2 ^ 52 ≤ m / 2 ^ k := by
    rw [Nat.le_div_iff_mul_le (Nat.two_pow_pos k), ← Nat.pow_add, ← hk]
    exact Nat.log2_self_le hm₀
  have hhigh : m / 2 ^ k < 2 ^ 53 := by
    rw [Nat.div_lt_iff_lt_mul (Nat.two_pow_pos k), ← Nat.pow_add, show 53 + k = m.log2 + 1 by omega]
    exact Nat.lt_log2_self
  have hrounded := roundedMantissa_mem (ExtendedMantissa.ofMantissaAndAccuracy m .exact >>> k)
  rw [mantissa_shiftRight] at hrounded
  have hfirst : shiftToTargetExponent .binary64 m e .exact =
      (ExtendedMantissa.ofMantissaAndAccuracy m .exact >>> k, e + k) := by
    simp only [shiftToTargetExponent, shiftToExponent]
    rw [targetExponent_eq (by omega), show (m.log2 + e - 52 - e).toNat = k by omega]
  unfold roundWithAccuracy
  rw [hfirst]
  refine (shiftToTargetExponent_normal s (e := e + k) (Nat.le_trans hlow hrounded.1)
    ?_ ?_).mono ?_ ?_
  · exact Nat.le_trans hrounded.2 hhigh
  all_goals omega

/-! ## Packing -/

theorem unpackSign_packComponents {spec : Format} (s : Sign) (e : BitVec spec.exponentBits)
    (m : BitVec spec.mantissaBitsWithoutImplicit) :
    unpackSign (packComponents spec s e m) = s.toBitVec := by
  apply BitVec.eq_of_getLsbD_eq
  intro i hi
  obtain rfl : i = 0 := by omega
  simp only [unpackSign, packComponents, BitVec.getLsbD_cast, BitVec.getLsbD_extractLsb,
    BitVec.getLsbD_append, Nat.add_zero, Nat.not_lt.2 (Nat.le_add_right _ _), if_false,
    Nat.add_sub_cancel_left, Nat.lt_irrefl, Nat.sub_self]
  simp

theorem ofBitVec_toBitVec (s : Sign) : Sign.ofBitVec s.toBitVec = s := by cases s <;> rfl

theorem toNat_one_append (m : BitVec 52) : (1#1 ++ m).toNat = 2 ^ 52 + m.toNat := by
  rw [BitVec.toNat_append, ← Nat.shiftLeft_add_eq_or_of_lt m.isLt]
  rfl

theorem unpack_infinity (s : Sign) :
    unpack .binary64 (packedInfinity .binary64 s) = .infinity s := by
  cases s <;> rfl

/-- Packing keeps a number whose exponent fits into a double. -/
theorem unpack_pack_of_le {s : Sign} {m : Nat} {e : Int} (hm : 0 < m) (h₁ : 2 ^ 52 ≤ m)
    (h₂ : m < 2 ^ 53) (he : -1074 ≤ e) (he' : e ≤ 971) :
    unpack .binary64 (pack .binary64 (.finite s m e hm)) = .finite s m e hm := by
  have hbiased : (e + Format.binary64.exponentBias + Format.binary64.mantissaBitsWithoutImplicit) =
      e + 1075 := by
    change e + (1023 : Nat) + (52 : Nat) = e + 1075
    omega
  have hnat : (BitVec.ofNat 11 (e + 1075).toNat).toNat = (e + 1075).toNat := by
    rw [BitVec.toNat_ofNat]
    exact Nat.mod_eq_of_lt (by omega)
  have hones : BitVec.ofNat 11 (e + 1075).toNat ≠ -1#11 := fun h ↦ by
    have := congrArg BitVec.toNat h
    rw [hnat, show (-1#11).toNat = 2047 by decide] at this
    omega
  have hzero : BitVec.ofNat 11 (e + 1075).toNat ≠ 0#11 := fun h ↦ by
    have := congrArg BitVec.toNat h
    rw [hnat, BitVec.toNat_zero] at this
    omega
  have hmantissa : (1#1 ++ BitVec.ofNat 52 m).toNat = m := by
    rw [toNat_one_append, BitVec.toNat_ofNat]
    omega
  simp only [pack, hbiased, log2_eq h₁ h₂]
  rw [if_neg (by omega), if_pos (by decide)]
  simp only [unpack, unpackMantissa_packComponents, unpackExponent_packComponents,
    unpackSign_packComponents,
    ofBitVec_toBitVec, hmantissa, hnat]
  rw [if_neg hones, if_neg hzero]
  have hbias : ((Format.binary64.exponentBias : Nat) : Int) + (52 : Nat) = 1075 := by decide
  simp only [UnpackedFloat.finite.injEq, true_and]
  omega

/-- Packing turns a number whose exponent does not fit into an infinity. -/
theorem unpack_pack_of_lt {s : Sign} {m : Nat} {e : Int} (hm : 0 < m) (he : 971 < e) :
    unpack .binary64 (pack .binary64 (.finite s m e hm)) = .infinity s := by
  have hbiased : (e + Format.binary64.exponentBias + Format.binary64.mantissaBitsWithoutImplicit) =
      e + 1075 := by
    change e + (1023 : Nat) + (52 : Nat) = e + 1075
    omega
  simp only [pack, hbiased]
  rw [if_pos (by omega)]
  exact unpack_infinity s

/-- Packing keeps a number, or turns it into an infinity of the same sign, which happens only to
numbers with great exponents. -/
theorem Normal.unpack_pack {s : Sign} {a b : Int} {u : UnpackedFloat} (h : Normal s a b u)
    (ha : -1074 ≤ a) :
    unpack .binary64 (pack .binary64 u) = u ∨
      (unpack .binary64 (pack .binary64 u) = .infinity s ∧ 971 < b) := by
  obtain ⟨m, e, hm, rfl, h₁, h₂, h₃, h₄⟩ := h
  rcases Int.lt_or_le 971 e with he | he
  · exact .inr ⟨unpack_pack_of_lt hm he, by omega⟩
  · exact .inl (unpack_pack_of_le hm h₁ h₂ (by omega) he)

/-! ## Integers -/

/-- A product with a power of two that fills a double has the logarithm of the other factor. -/
theorem log2_mul_two_pow {m : Nat} (hm : m ≠ 0) (k : Nat) : (m * 2 ^ k).log2 = m.log2 + k := by
  have h₁ := Nat.log2_self_le hm
  have h₂ := Nat.lt_log2_self (n := m)
  apply log2_eq
  · rw [Nat.pow_add]
    exact Nat.mul_le_mul_right _ h₁
  · rw [show m.log2 + k + 1 = (m.log2 + 1) + k by omega, Nat.pow_add]
    exact Nat.mul_lt_mul_of_pos_right h₂ (Nat.two_pow_pos k)

/-- A natural number with at most 53 bits as a double. -/
theorem toModel_toFloat_normal {n : Nat} (hn : n ≠ 0) (h : n < 2 ^ 53) :
    ∃ u, n.toUInt64.toFloat.toModel = Float.Model.pack u ∧ Normal .positive (-52) 1 u := by
  have hlog : n.log2 < 53 := (Nat.log2_lt hn).2 h
  refine ⟨_, rfl, ?_⟩
  have htoNat : n.toUInt64.toNat = n := by
    rw [Nat.toUInt64, UInt64.toNat_ofNat']
    exact Nat.mod_eq_of_lt (by omega)
  have hround : Float.Model.UnpackedFloat.ofUInt64 .binary64 n.toUInt64 =
      roundWithAccuracy .binary64 .positive (n * 2 ^ (52 - n.log2)) (-(52 - n.log2 : Nat))
        .exact := by
    simp only [ofUInt64, ofNat, ofInt, htoNat, UnpackedFloat.normalize]
    rw [show compare (n : Int) 0 = .gt from Int.compare_eq_gt.2 (by omega)]
    simp only [UnpackedFloat.round, decreaseExponent, Int.toNat_natCast]
    rw [targetExponent_eq (by omega), show ((0 : Int) - (n.log2 + 0 - 52)).toNat = 52 - n.log2 by
      omega, Nat.shiftLeft_eq, Int.zero_sub]
  rw [hround]
  have hlog₂ := log2_mul_two_pow hn (52 - n.log2)
  have hfull : 2 ^ 52 ≤ n * 2 ^ (52 - n.log2) := by
    have := Nat.log2_self_le (n := n * 2 ^ (52 - n.log2))
      (Nat.mul_ne_zero hn (Nat.ne_of_gt (Nat.two_pow_pos _)))
    rwa [hlog₂, show n.log2 + (52 - n.log2) = 52 by omega] at this
  exact (roundWithAccuracy_normal .positive hfull (by omega)).mono (by omega) (by omega)

/-- A natural number with more bits as a double. -/
theorem toModel_ofNat_normal {n : Nat} (h : 2 ^ 53 ≤ n) :
    ∃ u, (Float.ofNat n).toModel = Float.Model.pack u ∧
      Normal .positive (n.log2 - 52) (n.log2 - 51) u := by
  have hn : n ≠ 0 := by omega
  have hlog : 53 ≤ n.log2 := (Nat.le_log2 hn).2 h
  have hunfold : (Float.ofNat n).toModel = Float.Model.ofScientific n 0 := by
    change (Float.ofScientific n false 0).toModel = _
    rw [Float.ofScientific, dif_neg (by omega)]
    rfl
  refine ⟨_, hunfold, ?_⟩
  have hscientific : ofScientific .binary64 n 0 =
      roundWithAccuracy .binary64 .positive (n * 2 ^ 53) (-53) .exact := by
    have hfactor : n * 2 ^ Format.binary64.mantissaBits * 10 ^ (0 : Int).toNat = n * 2 ^ 53 :=
      Nat.mul_one _
    rw [ofScientific, dif_neg hn, if_neg (by decide), if_neg (by
      have : (2 ^ Format.binary64.exponentBits : Int) = 2048 := by decide
      omega), if_pos (by omega), mul, Nat.shiftLeft_eq, hfactor]
    rfl
  rw [hscientific]
  have hfull : 2 ^ 52 ≤ n * 2 ^ 53 := by omega
  have := roundWithAccuracy_normal .positive hfull (e := -53) (by decide)
  rw [log2_mul_two_pow hn] at this
  exact this.mono (by omega) (by omega)

/-- A product with one. -/
theorem toModel_mul_one_normal {x : Float} {u : UnpackedFloat}
    (hx : x.toModel = Float.Model.pack u) (hu : Normal .positive (-52) 1 u) :
    ∃ v, (x * Float.exactlyRepresentablePowersOfTen[0]).toModel = Float.Model.pack v ∧
      Normal .positive (-52) 2 v := by
  obtain ⟨m, e, hm, rfl, h₁, h₂, h₃, h₄⟩ := hu
  have hunpack : x.toModel.unpack = .finite .positive m e hm := by
    rw [hx]
    exact unpack_pack_of_le hm h₁ h₂ (by omega) (by omega)
  have hone : Float.exactlyRepresentablePowersOfTen[0].toModel.unpack =
      .finite .positive (2 ^ 52) (-52) (by decide) := by rfl
  have hproduct : (x * Float.exactlyRepresentablePowersOfTen[0]).toModel =
      Float.Model.pack
        (roundWithAccuracy .binary64 .positive (m * 2 ^ 52) (e + -52) .exact) := by
    change Float.Model.pack (mul .binary64 x.toModel.unpack _) = _
    rw [hunpack, hone]
    rfl
  refine ⟨_, hproduct, ?_⟩
  have := roundWithAccuracy_normal .positive (m := m * 2 ^ 52) (e := e + -52) (by omega) (by omega)
  rw [log2_mul_two_pow (by omega), log2_eq h₁ h₂] at this
  exact this.mono (by omega) (by omega)

/-- A double of a given sign that is neither zero nor undefined, and infinite only where the bound
of the exponent allows it. -/
def Signed (s : Sign) (greatest : Int) (x : Float) : Prop :=
  Normal s (-52) greatest x.toModel.unpack ∨ x.toModel.unpack = .infinity s ∧ 971 < greatest

theorem Signed.of_pack {s : Sign} {b : Int} {x : Float} {u : UnpackedFloat}
    (hx : x.toModel = Float.Model.pack u) (hu : Normal s (-52) b u) : Signed s b x := by
  have hunpack : x.toModel.unpack = unpack .binary64 (pack .binary64 u) := by
    rw [hx]
    rfl
  rcases hu.unpack_pack (by decide) with h | ⟨h, hb⟩
  · left
    rw [hunpack, h]
    exact hu
  · right
    exact ⟨hunpack.trans h, hb⟩

theorem Signed.neg {b : Int} {x : Float} (h : Signed .positive b x) :
    Signed .negative b (Float.neg x) := by
  have hneg : (Float.neg x).toModel = Float.Model.pack x.toModel.unpack.neg := rfl
  rcases h with ⟨m, e, hm, hu, h₁, h₂, h₃, h₄⟩ | ⟨hu, hb⟩
  · rw [hu] at hneg
    exact .of_pack hneg ⟨m, e, hm, rfl, h₁, h₂, h₃, h₄⟩
  · right
    refine ⟨?_, hb⟩
    rw [hneg, hu]
    exact unpack_infinity .negative

/-- A positive natural number as a double is a number of its size, or infinite. -/
theorem signed_ofNat {n : Nat} (hn : n ≠ 0) :
    Signed .positive (max 2 (n.log2 - 51)) (Float.ofNat n) := by
  suffices ∃ u, (Float.ofNat n).toModel = Float.Model.pack u ∧
      Normal .positive (-52) (max 2 (n.log2 - 51)) u by
    obtain ⟨u, hu, hnormal⟩ := this
    exact .of_pack hu hnormal
  rcases Nat.lt_or_ge n (2 ^ 53) with h | h
  · obtain ⟨u, hu, hnormal⟩ := toModel_toFloat_normal hn h
    obtain ⟨v, hv, hnormal'⟩ := toModel_mul_one_normal hu hnormal
    refine ⟨v, ?_, hnormal'.mono (by omega) (by omega)⟩
    rw [← hv]
    change (Float.ofScientific n false 0).toModel = _
    rw [Float.ofScientific, dif_pos ⟨h, by decide⟩]
    rfl
  · obtain ⟨u, hu, hnormal⟩ := toModel_ofNat_normal h
    exact ⟨u, hu, hnormal.mono (by omega) (by omega)⟩

/-- An integer other than zero as a double has its sign, and is infinite only when it is great. -/
theorem signed_ofInt {n : Int} (hn : n ≠ 0) :
    Signed (if 0 < n then .positive else .negative) (max 2 (n.natAbs.log2 - 51))
      (Float.ofInt n) := by
  cases n with
  | ofNat n =>
    have hne : n ≠ 0 := by simpa using hn
    have hpos : (0 : Int) < Int.ofNat n := Int.natCast_pos.2 (Nat.pos_of_ne_zero hne)
    rw [if_pos hpos]
    exact signed_ofNat hne
  | negSucc n =>
    rw [if_neg (by omega)]
    exact (signed_ofNat n.succ_ne_zero).neg

theorem unpack_zero : (Scalar.zero : Float).toModel.unpack = .zero .positive := by rfl

theorem lt_eq (x y : Float) : Scalar.lt x y = x.toModel.unpack.lt y.toModel.unpack := by
  change decide (decide (x.toModel.unpack.lt y.toModel.unpack = true) = true) = _
  rw [Bool.decide_eq_true, Bool.decide_eq_true]

theorem le_eq (x y : Float) : decide (x ≤ y) = x.toModel.unpack.le y.toModel.unpack := by
  change decide (decide (x.toModel.unpack.le y.toModel.unpack = true) = true) = _
  rw [Bool.decide_eq_true, Bool.decide_eq_true]

/-- The double nearest to an integer is positive exactly when the integer is. -/
theorem lt_zero_ofInt (n : Int) :
    Scalar.lt (Scalar.zero : Float) (Scalar.ofInt n) = decide (0 < n) := by
  rw [lt_eq, unpack_zero]
  change (UnpackedFloat.zero .positive).lt (Float.ofInt n).toModel.unpack = _
  by_cases hn : n = 0
  · subst hn
    rfl
  · by_cases hpos : 0 < n
    · rcases signed_ofInt hn with ⟨m, e, hm, hu, -⟩ | ⟨hu, -⟩ <;>
        rw [hu, if_pos hpos, decide_eq_true hpos] <;> rfl
    · rcases signed_ofInt hn with ⟨m, e, hm, hu, -⟩ | ⟨hu, -⟩ <;>
        rw [hu, if_neg hpos, decide_eq_false hpos] <;> rfl

/-- The double nearest to an integer is zero exactly when the integer is. -/
theorem eq_ofInt_zero (n : Int) :
    Scalar.eq (Scalar.ofInt n) (Scalar.zero : Float) = decide (n = 0) := by
  change (Float.ofInt n).toModel.unpack.beq (Scalar.zero : Float).toModel.unpack = _
  rw [unpack_zero]
  by_cases hn : n = 0
  · subst hn
    rfl
  · rw [decide_eq_false hn]
    by_cases hpos : 0 < n
    · rcases signed_ofInt hn with ⟨m, e, hm, hu, -⟩ | ⟨hu, -⟩ <;> rw [hu, if_pos hpos] <;> rfl
    · rcases signed_ofInt hn with ⟨m, e, hm, hu, -⟩ | ⟨hu, -⟩ <;> rw [hu, if_neg hpos] <;> rfl

theorem toSingle_zero : Scalar.toSingle (Scalar.zero : Float) = Scalar.zero := by decide +kernel

theorem toHalf_zero : Scalar.toHalf (Scalar.zero : Float) = Scalar.zero := by decide +kernel

instance instLawfulScalarFloat : LawfulScalar Float :=
  ⟨lt_zero_ofInt, eq_ofInt_zero, toSingle_zero, toHalf_zero⟩

/-! ## The parts of a double -/

/-- Whether a sign is a minus sign. -/
def isMinus : Sign → Bool
  | .negative => true
  | .positive => false

/-- The parts of a number as the arithmetic of doubles sees it. -/
def partsOf : UnpackedFloat → Binary64
  | .finite s m e _ => .finite (isMinus s) m e
  | .zero s => .finite (isMinus s) 0 (-1074)
  | .infinity s => .infinite (isMinus s)
  | .notANumber => .nan

theorem toNat_unpackExponent (b : BitVec Format.binary64.numBits) :
    (unpackExponent b).toNat = b.toNat / Binary64.hidden % 2048 := by
  simp only [unpackExponent, BitVec.toNat_cast, BitVec.extractLsb_toNat, Nat.shiftRight_eq_div_pow]
  rfl

theorem toNat_unpackMantissa (b : BitVec Format.binary64.numBits) :
    (unpackMantissa b).toNat = b.toNat % Binary64.hidden := by
  simp only [unpackMantissa, BitVec.toNat_cast, BitVec.extractLsb_toNat, Nat.shiftRight_zero]
  rfl

theorem isMinus_unpackSign (b : BitVec Format.binary64.numBits) :
    isMinus (Sign.ofBitVec (unpackSign b)) = decide (9223372036854775808 ≤ b.toNat) := by
  have hb : b.toNat < 2 ^ 64 := b.isLt
  have hsign : (unpackSign b).toNat = b.toNat / 2 ^ 63 % 2 := by
    simp only [unpackSign, BitVec.toNat_cast, BitVec.extractLsb_toNat, Nat.shiftRight_eq_div_pow]
  unfold Sign.ofBitVec
  split
  case isTrue h =>
    rw [h, BitVec.toNat_zero] at hsign
    exact (decide_eq_false (by omega)).symm
  case isFalse h =>
    rw [← BitVec.toNat_inj, hsign, BitVec.toNat_zero] at h
    exact (decide_eq_true (by omega)).symm

/-- Taking a double apart by its bits gives the parts that the arithmetic sees. -/
theorem partsOf_unpack (b : BitVec Format.binary64.numBits) :
    partsOf (unpack .binary64 b) =
      if b.toNat / Binary64.hidden % 2048 = 2047 then
        if b.toNat % Binary64.hidden = 0 then .infinite (decide (9223372036854775808 ≤ b.toNat))
        else .nan
      else if b.toNat / Binary64.hidden % 2048 = 0 then
        .finite (decide (9223372036854775808 ≤ b.toNat)) (b.toNat % Binary64.hidden) (-1074)
      else
        .finite (decide (9223372036854775808 ≤ b.toNat))
          (b.toNat % Binary64.hidden + Binary64.hidden)
          ((b.toNat / Binary64.hidden % 2048 : Nat) - 1075) := by
  have hones : unpackExponent b = -1#11 ↔
      b.toNat / Binary64.hidden % 2048 = 2047 := by
    rw [← toNat_unpackExponent, ← BitVec.toNat_inj]
    rfl
  have hzero : unpackExponent b = 0#11 ↔
      b.toNat / Binary64.hidden % 2048 = 0 := by
    rw [← toNat_unpackExponent, ← BitVec.toNat_inj]
    rfl
  have hfraction : unpackMantissa b = 0#52 ↔
      b.toNat % Binary64.hidden = 0 := by
    rw [← toNat_unpackMantissa, ← BitVec.toNat_inj]
    rfl
  have hbias : ((Format.binary64.exponentBias : Nat) : Int) +
      (Format.binary64.mantissaBitsWithoutImplicit : Nat) = 1075 := by decide
  have hfull : (1#1 ++ unpackMantissa b).toNat = b.toNat % Binary64.hidden + Binary64.hidden := by
    rw [toNat_one_append, toNat_unpackMantissa, Nat.add_comm]
    rfl
  simp only [unpack, hones, hzero, hfraction, hbias]
  split
  · split <;> simp [partsOf, isMinus_unpackSign]
  · split
    · split
      · simp [partsOf, isMinus_unpackSign, *]
      · simp [partsOf, isMinus_unpackSign, toNat_unpackMantissa, toNat_unpackExponent, *]
    · simp [partsOf, isMinus_unpackSign, hfull, toNat_unpackExponent]

theorem ofFloat_eq (x : Float) : Binary64.ofFloat x = partsOf x.toModel.unpack :=
  (partsOf_unpack x.toModel.toBits.toBitVec).symm

theorem significand_lt {x : Float} {negative : Bool} {m : Nat} {e : Int}
    (h : Binary64.ofFloat x = .finite negative m e) : m < 2 ^ 53 := by
  have hfraction : x.toBits.toNat % Binary64.hidden < Binary64.hidden := Nat.mod_lt _ (by decide)
  unfold Binary64.ofFloat at h
  simp only at h
  unfold Binary64.hidden at *
  split at h
  · split at h <;> cases h
  · split at h <;> cases h <;> omega

theorem floor_eq (x : Float) :
    Scalar.floor x = (Binary64.ofFloat x).roundWith Binary64.floorShift := rfl

theorem ceil_eq (x : Float) : Scalar.ceil x =
    (Binary64.ofFloat x).roundWith fun n k ↦ -Binary64.floorShift (-n) k := rfl

theorem nearest_eq (x : Float) :
    Scalar.nearest x = (Binary64.ofFloat x).roundWith Binary64.nearestShift := rfl

/-! ## Range -/

/-- A double that unpacks to a finite number is finite. -/
theorem isFinite_of_unpack {x : Float} {s : Sign} {m : Nat} {e : Int} {hm : 0 < m}
    (h : x.toModel.unpack = .finite s m e hm) : Scalar.isFinite x = true := by
  rw [Scalar.isFinite, floor_eq, ofFloat_eq, h]
  rfl

/-- Integers below `2 ^ 1023` in size are within the range of doubles. -/
theorem ofWhole_eq_ok {n : Int} {k : Nat} (hk : k ≤ 1023) (h : n.natAbs < 2 ^ k) :
    Scalar.ofWhole n = .ok (Float.ofInt n) := by
  refine if_pos ?_
  by_cases hn : n = 0
  · subst hn
    rfl
  · have hlog : n.natAbs.log2 < k := (Nat.log2_lt (Int.natAbs_ne_zero.2 hn)).2 h
    rcases signed_ofInt hn with ⟨m, e, hm, hu, -⟩ | ⟨-, hb⟩
    · exact isFinite_of_unpack hu
    · omega

end Double

end QuadMosaic
