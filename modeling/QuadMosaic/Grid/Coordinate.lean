import QuadMosaic.Json.Basic
import QuadMosaic.Scalar

/-!
# The coordinates of boxes

The corners of a box of pixels are integers.  A box typed by hand may have corners between pixels,
so the operations on boxes are written for every kind of coordinate that has the ones below.
-/

namespace QuadMosaic

/-- A kind of number that the corners of a box can be. -/
class Coordinate (κ : Type) extends Zero κ, Add κ, Sub κ, Neg κ, Mul κ, Max κ, Min κ, LE κ, LT κ
    where
  decideLE : ∀ x y : κ, Decidable (x ≤ y)
  decideLT : ∀ x y : κ, Decidable (x < y)
  /-- An integer as a coordinate. -/
  ofInt : Int → κ
  /-- The quotient rounded down, for a divisor that is not zero. -/
  floorDiv : κ → κ → κ
  /-- The integer towards zero. -/
  truncate : κ → Int
  /-- The column or the row of pixels that a coordinate counts, if it is of a kind that counts. -/
  index? : κ → Option Int
  /-- Two coordinates as multiples of one unit. -/
  inUnits : κ → κ → Int × Int
  /-- A coordinate as a number to calculate with; a failure when it lies beyond all of them. -/
  toScalar : {α : Type} → [Scalar α] → κ → Except Fault α
  /-- A coordinate as data. -/
  toJson : κ → Json

namespace Coordinate

variable {κ : Type} [Coordinate κ]

instance instDecidableLE (x y : κ) : Decidable (x ≤ y) := decideLE x y

instance instDecidableLT (x y : κ) : Decidable (x < y) := decideLT x y

instance instInhabited : Inhabited κ := ⟨0⟩

/-- Whether two coordinates are equal as numbers. -/
def same (x y : κ) : Bool := decide (x ≤ y) && decide (y ≤ x)

/-- A quotient rounded down; a failure when the divisor is zero. -/
def quotient (x y : κ) : Except Fault κ :=
  if same y 0 then .error (.value .divisionByZero) else .ok (floorDiv x y)

/-- Integers as coordinates. -/
instance instInt : Coordinate Int where
  zero := 0
  decideLE := inferInstance
  decideLT := inferInstance
  ofInt n := n
  floorDiv := Int.fdiv
  truncate n := n
  index? := some
  inUnits m n := (m, n)
  toScalar n := Scalar.ofWhole n
  toJson := .int

theorem floorDiv_int (m n : Int) : floorDiv m n = Int.fdiv m n := rfl

theorem same_int {m n : Int} : same m n = true ↔ m = n := by
  simp only [same, Bool.and_eq_true, decide_eq_true_eq]
  omega

theorem quotient_int {m n : Int} (h : n ≠ 0) : quotient m n = .ok (Int.fdiv m n) := by
  simp [quotient, same_int, h, floorDiv_int]

end Coordinate

end QuadMosaic
