import QuadMosaic.Grid.LonLatBox
import QuadMosaic.Grid.Quantity

/-!
# What a viewer has to be told

Each profile needs some of the options of a run and, for a region, its box on the globe.  Viewers
are told them as they were given.
-/

namespace QuadMosaic

/-- The options that viewers may need. -/
structure ViewerSettings where
  maxLodPixels : Json := .int 1024
  drawOrderOffset : Json := .int 0
  terrain : Json := .bool false
  /-- The name of the module that the pyramid belongs to; null or empty for none. -/
  moduleName : Json := .null
  deriving Repr

/-- The options that viewers may need, as data. -/
def ViewerSettings.toJson (s : ViewerSettings) : Json :=
  .obj [("max_lod_pixels", s.maxLodPixels), ("draw_order_offset", s.drawOrderOffset),
    ("terrain", s.terrain), ("module_name", s.moduleName)]

/-- A profile with everything that its viewer has to be told. -/
inductive ViewerConfig
  | kml (box : LonLatBox Quantity) (maxLodPixels drawOrderOffset : Json)
  | tms
  | uniview (moduleName terrain : Json)
  | gmap
  | celestia (moduleName : Json)
  | gigapan (box : LonLatBox Quantity)
  | plain (projected : Bool)
  deriving Repr

namespace ViewerConfig

/-- The profile of a configuration. -/
def profile : ViewerConfig → Profile
  | kml .. => .kml
  | tms => .tms
  | uniview .. => .uniview
  | gmap => .gmap
  | celestia .. => .celestia
  | gigapan .. => .gigapan
  | plain projected => if projected then .none else .gigapanNoproj

/-- A box as a viewer is told it. -/
def boxToJson (box : LonLatBox Quantity) : Json := .obj (box.map Quantity.toJson).toFields

/-- What the viewer has to be told, as data. -/
def parameters : ViewerConfig → Fields
  | kml box maxLodPixels drawOrderOffset =>
    [("longlat_bbox", boxToJson box), ("max_lod_pixels", maxLodPixels),
      ("draw_order_offset", drawOrderOffset)]
  | tms => []
  | uniview moduleName terrain => [("module_name", moduleName), ("terrain", terrain)]
  | gmap => []
  | celestia moduleName => [("module_name", moduleName)]
  | gigapan box => [("longlat_bbox", boxToJson box)]
  | plain _ => []

/-- The module name that a profile needs. -/
def requireModule (profile : Profile) (settings : ViewerSettings) : Except Fault Json :=
  if settings.moduleName.isGiven then .ok settings.moduleName
  else .error (.config (.profileWithoutModule profile))

/-- The box on the globe that a profile needs. -/
def requireBox (profile : Profile) (box : Option (LonLatBox Quantity)) :
    Except Fault (LonLatBox Quantity) :=
  match box with
  | some b => .ok b
  | none => .error (.config (.profileWithoutBox profile))

/-- The configuration of a profile. -/
def ofProfile (profile : Profile) (settings : ViewerSettings) (box : Option (LonLatBox Quantity)) :
    Except Fault ViewerConfig :=
  match profile with
  | .kml => do
    let b ← requireBox .kml box
    pure (kml b settings.maxLodPixels settings.drawOrderOffset)
  | .tms => .ok tms
  | .uniview => do
    let name ← requireModule .uniview settings
    pure (uniview name settings.terrain)
  | .gmap => .ok gmap
  | .celestia => do
    let name ← requireModule .celestia settings
    pure (celestia name)
  | .gigapan => do
    let b ← requireBox .gigapan box
    pure (gigapan b)
  | .none => .ok (plain true)
  | .gigapanNoproj => .ok (plain false)

/-- A configuration is one of the profile it was made for. -/
theorem profile_of_ofProfile {p : Profile} {settings : ViewerSettings}
    {box : Option (LonLatBox Quantity)} {config : ViewerConfig}
    (h : ofProfile p settings box = .ok config) : config.profile = p := by
  cases p <;> cases box <;>
    simp only [ofProfile, requireBox, requireModule, bind, Except.bind, pure, Except.pure] at h <;>
    (try split at h) <;> simp_all [profile] <;> (try subst h) <;> rfl

end ViewerConfig

end QuadMosaic
