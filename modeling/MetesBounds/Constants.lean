import MetesBounds.Reckoning
import MetesBounds.Sphere

/-!
# `Constants` — the numbers that everything is reckoned with, and where they come from
-/

set_option autoImplicit false

namespace MetesBounds

/-- A measured or defined quantity, with its standard uncertainty. -/
structure Constant where
  value : Float
  uncertainty : Float
  unit : String
  source : String
  description : String

namespace Constant

/-- The radius of the sphere. -/
def earthMeanRadius : Constant where
  value := Sphere.earthRadius
  uncertainty := 10.0
  unit := "m"
  source := "IUGG mean radius (rounded)"
  description := "Radius of the sphere used for all traverse projections"

/-- The international foot. -/
def internationalFoot : Constant where
  value := 0.3048
  uncertainty := 0.0
  unit := "m per ft"
  source := "International Yard and Pound Agreement (1959)"
  description := "Conversion factor from international feet to meters"

/-- The survey foot. -/
def surveyFoot : Constant where
  value := 1200.0 / 3937.0
  uncertainty := 0.0
  unit := "m per ft"
  source := "Federal Register Notice 60-5442 (1959)"
  description := "Conversion factor from U.S. survey feet to meters"

/-- The measured and defined quantities by name. -/
def named : List (String × Constant) := [
  ("EARTH_MEAN_RADIUS", earthMeanRadius),
  ("INTERNATIONAL_FOOT_TO_M", internationalFoot),
  ("US_SURVEY_FOOT_TO_M", surveyFoot)
]

/-- The conventions of angles by name. -/
def angles : List (String × Float) := [
  ("FULL_CIRCLE_DEG", 360.0),
  ("HALF_CIRCLE_DEG", 180.0),
  ("RIGHT_ANGLE_DEG", 90.0),
  ("MINUTES_PER_DEGREE", 60.0),
  ("SECONDS_PER_DEGREE", 3600.0)
]

end Constant

end MetesBounds
