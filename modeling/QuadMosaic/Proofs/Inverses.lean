import Mathlib
import QuadMosaic.Georeference.Transfer
import QuadMosaic.Proofs.Steps

/-!
# Pixels carried there and back

A pixel reaches another georeference by three maps: its own affine map, the map of the projector
between the two reference systems, and the affine map of the destination undone.  It comes back by
the same three in the opposite order.  An affine map that does not flatten the plane permutes its
points, whatever its six coefficients are; so nothing is lost on the way but by the projector, and a
pixel comes back to its place exactly where the projector brings its coordinates back.

All of this is about exact numbers.
-/

namespace QuadMosaic

/-! ## Affine maps undone -/

namespace Affine

variable {t : Affine Rat}

theorem inverse_eq (h : t.determinant ≠ 0) : t.inverse = .ok
    { a := t.e * (1 / t.determinant)
      b := -t.b * (1 / t.determinant)
      c := -t.c * (t.e * (1 / t.determinant)) - t.f * (-t.b * (1 / t.determinant))
      d := -t.d * (1 / t.determinant)
      e := t.a * (1 / t.determinant)
      f := -t.c * (-t.d * (1 / t.determinant)) - t.f * (t.a * (1 / t.determinant)) } :=
  if_neg fun hzero ↦ h (of_decide_eq_true hzero)

/-- An affine map that does not flatten the plane can be undone: the inverse finds the one point
that the map takes to a given one. -/
theorem exists_inverse (h : t.determinant ≠ 0) :
    ∃ back, t.inverse = .ok back ∧ ∀ p q, back.apply q = p ↔ q = t.apply p := by
  have hscale : (t.a * t.e - t.b * t.d) * (1 / t.determinant) = 1 := mul_one_div_cancel h
  refine ⟨_, inverse_eq h, ?_⟩
  generalize 1 / t.determinant = scale at hscale ⊢
  rintro ⟨x, y⟩ ⟨u, v⟩
  simp only [apply, Point.mk.injEq]
  constructor
  · rintro ⟨rfl, rfl⟩
    constructor
    · linear_combination (t.c - u) * hscale
    · linear_combination (t.f - v) * hscale
  · rintro ⟨rfl, rfl⟩
    constructor
    · linear_combination x * hscale
    · linear_combination y * hscale

end Affine

/-! ## Pixels and coordinates -/

namespace Georeference

variable {g : Georeference Rat} {project : Projector Rat} {there back : Point Rat → Point Rat}

/-- Each point of the plane is that of one pixel position. -/
theorem exists_pointToPixel (h : g.transform.determinant ≠ 0) :
    ∃ toPixel, g.pointToPixel = .ok toPixel ∧ ∀ p q, toPixel q = p ↔ q = g.pixelToPoint p := by
  obtain ⟨back, hback, hundoes⟩ := Affine.exists_inverse h
  refine ⟨back.apply, ?_, hundoes⟩
  unfold pointToPixel
  rw [bind_of_eq_ok hback]
  rfl

theorem pixelToLonLat_eq (h : project g.crs g.crs.geodetic = some there) :
    g.pixelToLonLat project = .ok fun p ↦ there (g.pixelToPoint p) := by
  unfold pixelToLonLat Projector.between
  rw [h]
  rfl

theorem lonLatToPixel_eq {toPixel : Point Rat → Point Rat}
    (h : project g.crs.geodetic g.crs = some back) (hpixel : g.pointToPixel = .ok toPixel) :
    g.lonLatToPixel project = .ok fun q ↦ toPixel (back q) := by
  unfold lonLatToPixel Projector.between
  rw [h, hpixel]
  rfl

/-- Pixel positions are read as coordinates, and as longitudes and latitudes, and back.  Coordinates
lose nothing; longitudes and latitudes lose what the projector loses between the reference system
and its geodetic one. -/
structure MapsBack (g : Georeference Rat) (project : Projector Rat) : Prop where
  point : ∃ toPixel, g.pointToPixel = .ok toPixel ∧
    (∀ p, toPixel (g.pixelToPoint p) = p) ∧ ∀ q, g.pixelToPoint (toPixel q) = q
  lonLat : ∀ there back, project g.crs g.crs.geodetic = some there →
    project g.crs.geodetic g.crs = some back →
    ∃ toLonLat toPixel, g.pixelToLonLat project = .ok toLonLat ∧
      g.lonLatToPixel project = .ok toPixel ∧
      (∀ p, toPixel (toLonLat p) = p ↔ back (there (g.pixelToPoint p)) = g.pixelToPoint p) ∧
      ∀ q, toLonLat (toPixel q) = q ↔ there (back q) = q

theorem mapsBack (g : Georeference Rat) (project : Projector Rat)
    (h : g.transform.determinant ≠ 0) : g.MapsBack project := by
  obtain ⟨toPixel, hpixel, hundoes⟩ := exists_pointToPixel h
  have hpoint (q : Point Rat) : g.pixelToPoint (toPixel q) = q := ((hundoes _ q).1 rfl).symm
  constructor
  case point => exact ⟨toPixel, hpixel, fun p ↦ (hundoes p _).2 rfl, hpoint⟩
  case lonLat =>
    intro there back hthere hback
    refine ⟨_, _, pixelToLonLat_eq hthere, lonLatToPixel_eq hback hpixel, fun p ↦ hundoes p _,
      fun q ↦ ?_⟩
    rw [hpoint]

/-- A nudge moves the point of every pixel position by as much. -/
theorem pixelToPoint_nudge (g : Georeference Rat) (dx dy : Rat) (p : Point Rat) :
    (g.nudge dx dy).pixelToPoint p = ⟨(g.pixelToPoint p).x + dx, (g.pixelToPoint p).y + dy⟩ := by
  simp only [pixelToPoint, nudge, Affine.nudge, Affine.apply, add_assoc]

end Georeference

/-! ## Pixels of two georeferences -/

namespace Transfer

variable {project : Projector Rat}

theorem forward_eq {t : Transfer Rat} {there toPixel : Point Rat → Point Rat}
    (hthere : project t.source.crs t.destination.crs = some there)
    (hpixel : t.destination.pointToPixel = .ok toPixel) :
    t.forward project = .ok fun p ↦ toPixel (there (t.source.pixelToPoint p)) := by
  unfold forward Projector.between
  rw [hthere, hpixel]
  rfl

/-- Pixels carried to the destination and back come back to their place exactly where the projector
brings the coordinates of the source back. -/
theorem exists_reverse_forward {t : Transfer Rat} {there back : Point Rat → Point Rat}
    (hsource : t.source.transform.determinant ≠ 0)
    (hdestination : t.destination.transform.determinant ≠ 0)
    (hthere : project t.source.crs t.destination.crs = some there)
    (hback : project t.destination.crs t.source.crs = some back) :
    ∃ forward reverse, t.forward project = .ok forward ∧ t.reverse project = .ok reverse ∧
      (∀ p, reverse (forward p) = p ↔
        back (there (t.source.pixelToPoint p)) = t.source.pixelToPoint p) ∧
      ∀ p, forward (reverse p) = p ↔
        there (back (t.destination.pixelToPoint p)) = t.destination.pixelToPoint p := by
  obtain ⟨toSource, hsource, hundoes⟩ := Georeference.exists_pointToPixel hsource
  obtain ⟨toDestination, hdestination, hundoes'⟩ := Georeference.exists_pointToPixel hdestination
  refine ⟨_, _, forward_eq hthere hdestination, forward_eq (t := ⟨t.destination, t.source⟩) hback
    hsource, fun p ↦ ?_, fun p ↦ ?_⟩
  · rw [hundoes, ← (hundoes' _ _).1 rfl]
  · rw [hundoes', ← (hundoes _ _).1 rfl]

/-- Pixels come back to their place.

Between two georeferences whose affine maps do not flatten the plane, carrying a pixel over and back
leaves it where it was exactly where the projector does so with its coordinates, from either side.
Within one georeference, coordinates always come back, and longitudes and latitudes where the
projector brings them back; carried to the very same georeference, a pixel stays.  A georeference
that is nudged does all that too, with its points moved by the nudge. -/
theorem pixels_come_back (project : Projector Rat) :
    (∀ t : Transfer Rat, t.source.transform.determinant ≠ 0 →
      t.destination.transform.determinant ≠ 0 → ∀ there back,
      project t.source.crs t.destination.crs = some there →
      project t.destination.crs t.source.crs = some back →
      ∃ forward reverse, t.forward project = .ok forward ∧ t.reverse project = .ok reverse ∧
        (∀ p, reverse (forward p) = p ↔
          back (there (t.source.pixelToPoint p)) = t.source.pixelToPoint p) ∧
        ∀ p, forward (reverse p) = p ↔
          there (back (t.destination.pixelToPoint p)) = t.destination.pixelToPoint p) ∧
    ∀ g : Georeference Rat, g.transform.determinant ≠ 0 →
      g.MapsBack project ∧
      (project g.crs g.crs = some id → (⟨g, g⟩ : Transfer Rat).forward project = .ok id) ∧
      ∀ dx dy, (g.nudge dx dy).MapsBack project ∧
        ∀ p, (g.nudge dx dy).pixelToPoint p =
          ⟨(g.pixelToPoint p).x + dx, (g.pixelToPoint p).y + dy⟩ := by
  refine ⟨fun t hsource hdestination there back hthere hback ↦
    exists_reverse_forward hsource hdestination hthere hback, fun g h ↦ ⟨g.mapsBack project h, ?_,
    fun dx dy ↦ ⟨(g.nudge dx dy).mapsBack project h, g.pixelToPoint_nudge dx dy⟩⟩⟩
  intro hsame
  obtain ⟨toPixel, hpixel, hundoes⟩ := Georeference.exists_pointToPixel h
  rw [forward_eq hsame hpixel]
  exact congrArg Except.ok (funext fun p ↦ (hundoes p _).2 rfl)

/-- From sheared and turned pixels to pixels that stand on their heads. -/
def tilted : Transfer Rat where
  source := ⟨⟨"", [], Datum.wgs84, true⟩, ⟨3, 1, 5, 2, -4, 7⟩⟩
  destination := ⟨⟨"", [], Datum.wgs84, true⟩, ⟨0, 1 / 2, -180, 1, 0, 90⟩⟩

/-- Tilted pixels come back, before they are nudged and after. -/
theorem pixels_come_back_tilted :
    tilted.source.transform.determinant ≠ 0 ∧ tilted.destination.transform.determinant ≠ 0 ∧
    (∃ forward reverse, tilted.forward (fun _ _ ↦ some id) = .ok forward ∧
      tilted.reverse (fun _ _ ↦ some id) = .ok reverse ∧ (∀ p, reverse (forward p) = p) ∧
      ∀ p, forward (reverse p) = p) ∧
    (tilted.source.nudge (1 / 3) (-2)).MapsBack (fun _ _ ↦ some id) ∧
    (tilted.source.nudge (1 / 3) (-2)).pixelToPoint ⟨1, 1⟩ = ⟨28 / 3, 3⟩ := by
  have hsource : tilted.source.transform.determinant ≠ 0 := by decide +kernel
  have hdestination : tilted.destination.transform.determinant ≠ 0 := by decide +kernel
  obtain ⟨htransfers, hgeoreferences⟩ := pixels_come_back fun _ _ ↦ some id
  obtain ⟨forward, reverse, hforward, hreverse, hback, hthere⟩ :=
    htransfers tilted hsource hdestination id id rfl rfl
  obtain ⟨-, -, hnudge⟩ := hgeoreferences tilted.source hsource
  obtain ⟨hmaps, hmoved⟩ := hnudge (1 / 3) (-2)
  refine ⟨hsource, hdestination, ⟨forward, reverse, hforward, hreverse, fun p ↦ (hback p).2 rfl,
    fun p ↦ (hthere p).2 rfl⟩, hmaps, (hmoved ⟨1, 1⟩).trans ?_⟩
  decide +kernel

end Transfer

end QuadMosaic
