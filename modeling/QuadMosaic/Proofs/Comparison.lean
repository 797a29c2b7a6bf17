import Mathlib
import QuadMosaic.Pixel.Range
import QuadMosaic.Proofs.Double
import QuadMosaic.Proofs.Exact

/-!
# Comparing numbers

Doubles that are numbers are ordered as their signs, exponents and significands are, read as one key
after the other; what is no number is neither less than anything nor equal to it, itself included.
So comparing with it tells nothing, and a choice between two numbers by comparing them may depend on
which one stands first.

What the other files use are the laws of `OrderedScalar`, which hold of exact numbers as well, and
that a pixel of numbers is left out when they all equal the value that marks missing data
(`Raster.isMasked_iff`).
-/

namespace QuadMosaic

/-- A kind of number in which the numbers are ordered up to equality, and what is no number compares
with nothing. -/
class OrderedScalar (α : Type) [Scalar α] : Prop where
  isNaN_of_lt {x y : α} : Scalar.lt x y = true →
    ¬ Scalar.isNaN x = true ∧ ¬ Scalar.isNaN y = true
  lt_asymm {x y : α} : Scalar.lt x y = true → ¬ Scalar.lt y x = true
  lt_or_lt {x y z : α} : Scalar.lt x z = true → ¬ Scalar.isNaN y = true →
    Scalar.lt x y = true ∨ Scalar.lt y z = true
  eq_iff {x y : α} : Scalar.eq x y = true ↔
    (¬ Scalar.isNaN x = true ∧ ¬ Scalar.isNaN y = true) ∧
      ¬ Scalar.lt x y = true ∧ ¬ Scalar.lt y x = true
  isNaN_of_isFinite {x : α} : Scalar.isFinite x = true → ¬ Scalar.isNaN x = true

/-- Numbers that are compared by a key. -/
theorem OrderedScalar.of_key {α κ : Type} [Scalar α] [LinearOrder κ] (key : α → κ)
    (hlt : ∀ x y : α, Scalar.lt x y = true ↔
      (¬ Scalar.isNaN x = true ∧ ¬ Scalar.isNaN y = true) ∧ key x < key y)
    (heq : ∀ x y : α, Scalar.eq x y = true ↔
      (¬ Scalar.isNaN x = true ∧ ¬ Scalar.isNaN y = true) ∧ key x = key y)
    (hfinite : ∀ x : α, Scalar.isFinite x = true → ¬ Scalar.isNaN x = true) :
    OrderedScalar α where
  isNaN_of_lt {x y} h := ((hlt x y).1 h).1
  lt_asymm {x y} h h' := (((hlt x y).1 h).2.trans ((hlt y x).1 h').2).false
  lt_or_lt {x y z} h hy := by
    obtain ⟨⟨hx, hz⟩, hkey⟩ := (hlt x z).1 h
    rcases lt_or_ge (key x) (key y) with hxy | hyx
    · exact .inl ((hlt x y).2 ⟨⟨hx, hy⟩, hxy⟩)
    · exact .inr ((hlt y z).2 ⟨⟨hy, hz⟩, hyx.trans_lt hkey⟩)
  eq_iff {x y} := by
    rw [heq]
    refine and_congr_right fun hnumbers ↦ ?_
    rw [hlt, hlt, and_iff_right hnumbers, and_iff_right hnumbers.symm, not_lt, not_lt, and_comm,
      antisymm_iff]
  isNaN_of_isFinite {x} h := hfinite x h

instance instOrderedScalarRat : OrderedScalar Rat :=
  .of_key id (fun _ _ ↦ by simp [Scalar.lt, Scalar.isNaN])
    (fun _ _ ↦ by simp [Scalar.eq, Scalar.isNaN]) fun _ _ ↦ Bool.false_ne_true

namespace Exact

/-- What exact numbers are compared by: the infinities below and above all others. -/
def key : Exact → ℤ ×ₗ Rat
  | infinite true => toLex (-1, 0)
  | number q => toLex (0, q)
  | undefined => toLex (0, 0)
  | infinite false => toLex (1, 0)

theorem lt_iff_key (x y : Exact) :
    Scalar.lt x y = true ↔
      (¬ Scalar.isNaN x = true ∧ ¬ Scalar.isNaN y = true) ∧ key x < key y := by
  rcases x with p | (_ | _) | _ <;> rcases y with q | (_ | _) | _ <;>
    simp [Scalar.lt, Scalar.isNaN, lt, key, Prod.Lex.toLex_lt_toLex]

theorem eq_iff_key (x y : Exact) :
    Scalar.eq x y = true ↔
      (¬ Scalar.isNaN x = true ∧ ¬ Scalar.isNaN y = true) ∧ key x = key y := by
  rcases x with p | (_ | _) | _ <;> rcases y with q | (_ | _) | _ <;>
    simp [Scalar.eq, Scalar.isNaN, eq, key]

theorem isNaN_of_isFinite {x : Exact} (h : Scalar.isFinite x = true) :
    ¬ Scalar.isNaN x = true := by
  rintro hx
  obtain rfl := of_decide_eq_true hx
  cases h

instance instOrderedScalarExact : OrderedScalar Exact :=
  .of_key key lt_iff_key eq_iff_key fun _ ↦ isNaN_of_isFinite

theorem eq_number_iff {q : Rat} {v : Exact} :
    Scalar.eq (number q) v = true ↔ number q = v := by
  cases v <;> simp [Scalar.eq, eq]

end Exact

namespace Double

open Float.Model (UnpackedFloat)
open Float.Model.UnpackedFloat

/-- What doubles are compared by: the infinities below and above all others, zero between the signs,
and a negative number the lower the greater its size. -/
def key : UnpackedFloat → ℤ ×ₗ ℤ ×ₗ ℤ
  | .infinity .negative => toLex (-2, toLex (0, 0))
  | .finite .negative m e _ => toLex (-1, toLex (-e, -m))
  | .zero _ | .notANumber => toLex (0, toLex (0, 0))
  | .finite .positive m e _ => toLex (1, toLex (e, m))
  | .infinity .positive => toLex (2, toLex (0, 0))

theorem lt_iff_key (u v : UnpackedFloat) :
    u.lt v = true ↔ (¬ u.isNaN = true ∧ ¬ v.isNaN = true) ∧ key u < key v := by
  rcases u with (_ | _) | _ | _ | ⟨_ | _, m, e, _⟩ <;>
    rcases v with (_ | _) | _ | _ | ⟨_ | _, m', e', _⟩ <;>
    simp [UnpackedFloat.lt, UnpackedFloat.compare, UnpackedFloat.isNaN, key,
      Prod.Lex.toLex_lt_toLex, Ordering.then_eq_lt, compare_lt_iff_lt]
  case infinity.negative.infinity.positive => decide
  case finite.negative.finite.negative =>
    rw [Ordering.then_eq_gt, compare_gt_iff_gt, compare_gt_iff_gt, compare_eq_iff_eq]

theorem beq_iff_key (u v : UnpackedFloat) :
    u.beq v = true ↔ (¬ u.isNaN = true ∧ ¬ v.isNaN = true) ∧ key u = key v := by
  rcases u with (_ | _) | _ | _ | ⟨_ | _, m, e, _⟩ <;>
    rcases v with (_ | _) | _ | _ | ⟨_ | _, m', e', _⟩ <;>
    simp [UnpackedFloat.beq, UnpackedFloat.compare, UnpackedFloat.isNaN, key]
  case infinity.negative.infinity.negative => decide
  case infinity.positive.infinity.positive => decide

theorem eq_eq (x y : Float) : Scalar.eq x y = x.toModel.unpack.beq y.toModel.unpack := rfl

theorem isNaN_of_isFinite {x : Float} (h : Scalar.isFinite x = true) :
    ¬ Scalar.isNaN x = true := by
  change ¬ x.toModel.unpack.isNaN = true
  rw [Scalar.isFinite, floor_eq, ofFloat_eq] at h
  cases hx : x.toModel.unpack with
  | notANumber => rw [hx] at h; cases h
  | _ => exact Bool.false_ne_true

instance instOrderedScalarFloat : OrderedScalar Float :=
  .of_key (fun x ↦ key x.toModel.unpack) (fun x y ↦ by rw [lt_eq]; exact lt_iff_key _ _)
    (fun x y ↦ by rw [eq_eq]; exact beq_iff_key _ _) fun _ ↦ isNaN_of_isFinite

end Double

/-! ## Values that mark missing data -/

/-- A value marks missing data in an image: the one configured or, where none is, the image's
own. -/
def RasterSource.Marks {α : Type} (s : RasterSource α) (configured : Option α) (v : α) : Prop :=
  configured = some v ∨ configured = none ∧ s.nodata = some v

theorem RasterSource.effectiveNodata_eq_some_iff {α : Type} {s : RasterSource α}
    {configured : Option α} {v : α} :
    s.effectiveNodata configured = some v ↔ s.Marks configured v := by
  unfold effectiveNodata Marks
  cases configured <;> simp

/-- A pixel of numbers is left out when they all equal the value that marks missing data, which none
does when that value is no number. -/
theorem Raster.isMasked_iff {α : Type} [Scalar α] [OrderedScalar α] {r : Raster α} {v : α}
    {y x : Nat} (h : ∀ b < r.bands, ¬ Scalar.isNaN (r.sample b y x).toScalar = true) :
    r.isMasked (some v) y x = true ↔
      ∀ b < r.bands, Scalar.eq (r.sample b y x).toScalar v = true := by
  simp only [isMasked, List.all_eq_true, List.mem_range]
  refine forall₂_congr fun b hb ↦ ?_
  split
  case isTrue hv => exact iff_of_false (h b hb) fun heq ↦ (OrderedScalar.eq_iff.1 heq).1.2 hv
  case isFalse => exact Iff.rfl

end QuadMosaic
