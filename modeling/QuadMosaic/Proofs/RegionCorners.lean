import Mathlib
import QuadMosaic.Proofs.Globe

/-!
# The corners of a region on the globe

The corners of a box of a region are found in two ways.  One interpolates along the sides of the
pyramid; the other takes the affine map of the output grid, which whoever shows the pyramid takes
back.  They agree on every box, be it in the pyramid or not, and however wide the pixels are for
their height.  Taken back, a corner meets its pixels unless its row lies beyond a pole, where the
latitude was kept to the pole.

All of this is about exact numbers.
-/

namespace QuadMosaic

/-- A pyramid with columns has rows, though they may be counted backwards. -/
theorem Resolution.total_ne_zero {r : Resolution} {columns : Int} (h : r.columns = .ok columns)
    (hc : columns ≠ 0) : r.total ≠ 0 := by
  by_cases ha : r.aspectRatio = 0
  · have herror : r.columns = .error (.value .divisionByZero) :=
      if_pos (Coordinate.same_int.2 ha)
    cases herror.symm.trans h
  · intro ht
    rw [Resolution.columns_eq_ok ha, ht, Int.zero_fdiv] at h
    cases h
    exact hc rfl

/-- A grid of longitudes and latitudes is missed only for a datum that denotes none. -/
theorem Georeference.geographic_eq_ok_iff {datum : Datum} {t : Affine Rat}
    {g : Georeference Rat} : Georeference.geographic datum t = .ok g ↔
      ReferenceSystem.build [("proj", .str "longlat")] datum = .ok g.crs ∧ g.transform = t := by
  constructor
  · intro h
    obtain ⟨crs, hcrs, h⟩ := exists_of_bind_eq_ok h
    cases h
    exact ⟨hcrs, rfl⟩
  · rintro ⟨hcrs, rfl⟩
    unfold geographic
    rw [bind_of_eq_ok hcrs]
    rfl

namespace PyramidBounds

theorem clampLatitude_eq_self_iff {x : Rat} : clampLatitude x = x ↔ x ∈ Set.Icc (-90) 90 := by
  rw [clampLatitude_eq, Set.mem_Icc]
  constructor
  · intro h
    rw [← h]
    exact ⟨le_max_left _ _, max_le (by norm_num) (min_le_left _ _)⟩
  · rintro ⟨hlow, hhigh⟩
    rw [min_eq_right hhigh, max_eq_right hlow]

variable {project : Projector Rat} {profile : Profile} {datum : Datum} {r : Resolution}
  {columns : Int} {output : Georeference Rat}

/-- The latitude of a row of a region, before it is kept between the poles. -/
def latitudeOfRow (r : Resolution) (y : Int) : Rat := 90 - 360 * y / r.total

/-- The grid of a region: a full turn of columns, and rows from the north pole down. -/
theorem ofProfile_eq_ok_iff (hp : profile.isKmlLike = true) (hcolumns : r.columns = .ok columns)
    (hc : columns ≠ 0) : OutputGrid.ofProfile profile datum r = .ok output ↔
      ReferenceSystem.build [("proj", .str "longlat")] datum = .ok output.crs ∧
        output.transform = ⟨360 / columns, 0, -180, 0, -360 / r.total, 90⟩ := by
  have hgrid := geographic_eq hcolumns hc (Resolution.total_ne_zero hcolumns hc) datum 90 360
  have hprofile : OutputGrid.ofProfile profile datum r =
      (OutputGrid.geographic datum r 90 360 : Except Fault (Georeference Rat)) := by
    cases profile with
    | kml | gigapan => rfl
    | _ => cases hp
  rw [hprofile, hgrid, Georeference.geographic_eq_ok_iff]
  norm_num

/-- The place of a pixel on the grid of a region. -/
theorem pixelToPoint_eq (ht : output.transform = ⟨360 / columns, 0, -180, 0, -360 / r.total, 90⟩)
    (x y : Int) : output.pixelToPoint ⟨x, y⟩ = ⟨-180 + 360 * x / columns, latitudeOfRow r y⟩ := by
  unfold Georeference.pixelToPoint latitudeOfRow
  rw [ht]
  simp only [Affine.apply, Point.mk.injEq]
  constructor <;> ring

/-- The two ways to the corners of a box of a region agree, and they lead back.

The grid of a region is there for every datum that denotes a system of longitudes and latitudes.
Then every box has corners, the same ones by interpolation and by projection.  The grid takes the
north-western and the south-eastern corner back to the pixels they come from exactly where their
latitudes were not changed to keep them between the poles. -/
theorem region_corners_agree (project : Projector Rat) (hp : profile.isKmlLike = true)
    (datum : Datum) (hcolumns : r.columns = .ok columns) (hc : 1 ≤ columns) :
    ((∃ output : Georeference Rat, OutputGrid.ofProfile profile datum r = .ok output) ↔
      ∃ crs : Crs, ReferenceSystem.build [("proj", .str "longlat")] datum = .ok crs) ∧
    ∀ output : Georeference Rat, OutputGrid.ofProfile profile datum r = .ok output →
      project output.crs output.crs.geodetic = some id →
      project output.crs.geodetic output.crs = some id →
      ∃ toPixel, output.lonLatToPixel project = .ok toPixel ∧ ∀ box : PixelBox,
        ∃ lonLat, linearLonLat box r = .ok lonLat ∧
          projectedLonLat project box output = .ok lonLat ∧
          (toPixel ⟨lonLat.west, lonLat.north⟩ = ⟨box.minX, box.minY⟩ ↔
            latitudeOfRow r box.minY ∈ Set.Icc (-90) 90) ∧
          (toPixel ⟨lonLat.east, lonLat.south⟩ = ⟨box.maxX, box.maxY⟩ ↔
            latitudeOfRow r box.maxY ∈ Set.Icc (-90) 90) := by
  have hc₀ : columns ≠ 0 := by omega
  have ht₀ := Resolution.total_ne_zero hcolumns hc₀
  constructor
  case left =>
    constructor
    · rintro ⟨output, ho⟩
      exact ⟨_, ((ofProfile_eq_ok_iff hp hcolumns hc₀).1 ho).1⟩
    · rintro ⟨crs, hcrs⟩
      exact ⟨⟨crs, _⟩, (ofProfile_eq_ok_iff hp hcolumns hc₀).2 ⟨hcrs, rfl⟩⟩
  case right =>
    intro output ho hthere hback
    obtain ⟨-, ht⟩ := (ofProfile_eq_ok_iff hp hcolumns hc₀).1 ho
    have hinvertible : output.transform.determinant ≠ 0 := by
      rw [ht]
      have hwidth : (360 / columns : Rat) ≠ 0 := div_ne_zero (by norm_num) (Int.cast_ne_zero.2 hc₀)
      have hheight : (-360 / r.total : Rat) ≠ 0 :=
        div_ne_zero (by norm_num) (Int.cast_ne_zero.2 ht₀)
      simpa only [Affine.determinant, zero_mul, sub_zero] using mul_ne_zero hwidth hheight
    obtain ⟨toPixel, hpixel, hundoes⟩ := Georeference.exists_pointToPixel hinvertible
    refine ⟨_, Georeference.lonLatToPixel_eq hback hpixel, fun box ↦
      ⟨_, linearLonLat_eq hcolumns hc₀ ht₀ box, ?_, ?_, ?_⟩⟩
    · rw [projectedLonLat_eq hthere, pixelToPoint_eq ht, pixelToPoint_eq ht]
      rfl
    · rw [id, hundoes, pixelToPoint_eq ht, ← clampLatitude_eq_self_iff]
      simp [latitudeOfRow]
    · rw [id, hundoes, pixelToPoint_eq ht, ← clampLatitude_eq_self_iff]
      simp [latitudeOfRow]

/-- A box that begins left of a pyramid whose pixels are twice as wide as high. -/
theorem region_corners_agree_left_of_pyramid :
    ∃ (output : Georeference Rat) (toPixel : Point Rat → Point Rat) (lonLat : LonLatBox Rat),
      OutputGrid.ofProfile .kml Datum.wgs84 (⟨8, 2⟩ : Resolution) = .ok output ∧
      output.lonLatToPixel (fun _ _ ↦ some id) = .ok toPixel ∧
      linearLonLat (⟨-1, 1, 3, 4⟩ : PixelBox) ⟨8, 2⟩ = .ok lonLat ∧
      projectedLonLat (fun _ _ ↦ some id) (⟨-1, 1, 3, 4⟩ : PixelBox) output = .ok lonLat ∧
      toPixel ⟨lonLat.west, lonLat.north⟩ = ⟨-1, 1⟩ ∧
      toPixel ⟨lonLat.east, lonLat.south⟩ = ⟨3, 4⟩ := by
  have hprofile : Profile.kml.isKmlLike = true := rfl
  have hcolumns : (⟨8, 2⟩ : Resolution).columns = .ok 4 := rfl
  obtain ⟨hthere, hcorners⟩ :=
    region_corners_agree (fun _ _ ↦ some id) hprofile Datum.wgs84 hcolumns (by decide)
  obtain ⟨output, ho⟩ := hthere.2 ⟨_, rfl⟩
  obtain ⟨toPixel, hpixel, hboxes⟩ := hcorners output ho rfl rfl
  obtain ⟨lonLat, hlinear, hprojected, hleast, hgreatest⟩ := hboxes ⟨-1, 1, 3, 4⟩
  refine ⟨output, toPixel, lonLat, ho, hpixel, hlinear, hprojected, ?_, ?_⟩
  · exact_mod_cast hleast.2 (by norm_num [latitudeOfRow])
  · exact_mod_cast hgreatest.2 (by norm_num [latitudeOfRow])

end PyramidBounds

end QuadMosaic
