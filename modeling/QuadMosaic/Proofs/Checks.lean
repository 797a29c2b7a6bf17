import QuadMosaic.Options.Basic
import QuadMosaic.Proofs.Steps

/-!
# Options that describe a run

Options are checked in one chain of refusals.  What is left of it is the conjunction of what the
checks ask for.
-/

namespace QuadMosaic

namespace MosaicOptions

/-- The options pass every check. -/
structure Passes (o : MosaicOptions) : Prop where
  inputs : o.inputs ≠ []
  /-- Bounds typed by hand are those of one image. -/
  bounds : o.georeference.manualBounds.isSome = true → o.inputs.length = 1
  /-- A profile without a place on the globe shows one image. -/
  plain : o.profile.isGeoreferenced = false → o.inputs.length = 1
  moduleName : o.profile = .uniview ∨ o.profile = .celestia → o.moduleName.isGiven = true
  aspectRatio : isPowerOfTwo o.aspectRatio = true
  tileSize : isPowerOfTwo o.tileSize = true
  globalResolution : ∀ n ∈ o.globalResolution, 0 < n
  channel : o.channelIsAllowed = true
  datum : ∃ d, o.georeference.datum.datum o.georeference.sphereRadius = .ok d

theorem refuse_eq_ok_iff {condition : Bool} {cause : ConfigFault} {u : Unit} :
    refuse condition cause = .ok u ↔ condition = false := by
  cases condition
  · exact ⟨fun _ ↦ rfl, fun _ ↦ rfl⟩
  · constructor <;> intro h <;> cases h

theorem pos_of_isPowerOfTwo {n : Int} (h : isPowerOfTwo n) : 0 < n := by
  rw [isPowerOfTwo, Bool.and_eq_true] at h
  exact of_decide_eq_true h.1

/-- Options are valid exactly when they pass every check. -/
theorem validate_eq_ok_iff {o : MosaicOptions} {u : Unit} : o.validate = .ok u ↔ o.Passes := by
  unfold validate
  constructor
  · intro h
    obtain ⟨_, hinputs, h⟩ := exists_of_bind_eq_ok h
    obtain ⟨_, hbounds, h⟩ := exists_of_bind_eq_ok h
    obtain ⟨_, hplain, h⟩ := exists_of_bind_eq_ok h
    obtain ⟨_, hmodule, h⟩ := exists_of_bind_eq_ok h
    obtain ⟨_, haspect, h⟩ := exists_of_bind_eq_ok h
    obtain ⟨_, htile, h⟩ := exists_of_bind_eq_ok h
    obtain ⟨_, hresolution, h⟩ := exists_of_bind_eq_ok h
    obtain ⟨_, hchannel, h⟩ := exists_of_bind_eq_ok h
    obtain ⟨d, hdatum, -⟩ := exists_of_bind_eq_ok h
    rw [refuse_eq_ok_iff] at hinputs hbounds hplain hmodule haspect htile hresolution hchannel
    exact {
      inputs := by simpa using hinputs
      bounds := by simpa using hbounds
      plain := by simpa using hplain
      moduleName := by simpa using hmodule
      aspectRatio := by simpa using haspect
      tileSize := by simpa using htile
      globalResolution := by simpa [Option.any_eq_false] using hresolution
      channel := by simpa using hchannel
      datum := ⟨d, hdatum⟩ }
  · intro h
    obtain ⟨d, hdatum⟩ := h.datum
    have hrefuse {condition : Bool} {cause : ConfigFault} (h : condition = false) :
        refuse condition cause = .ok () := refuse_eq_ok_iff.2 h
    rw [bind_of_eq_ok (hrefuse (by simpa using h.inputs)),
      bind_of_eq_ok (hrefuse (by simpa using h.bounds)),
      bind_of_eq_ok (hrefuse (by simpa using h.plain)),
      bind_of_eq_ok (hrefuse (by simpa using h.moduleName)),
      bind_of_eq_ok (hrefuse (by simpa using h.aspectRatio)),
      bind_of_eq_ok (hrefuse (by simpa using h.tileSize)),
      bind_of_eq_ok (hrefuse (by simpa [Option.any_eq_false] using h.globalResolution)),
      bind_of_eq_ok (hrefuse (by simpa using h.channel)), bind_of_eq_ok hdatum]
    rfl

end MosaicOptions

end QuadMosaic
