import MetesBounds.Measure
import MetesBounds.Sphere

/-!
# `Instruments` — what an evaluation takes from outside

Units are looked up and converted by a library of units, and great circles are followed by a library
of great circles. An evaluation is given both, and knows nothing of either but what they answer.
-/

set_option autoImplicit false

namespace MetesBounds

/-- The libraries that an evaluation works with. -/
structure Instruments where
  units : UnitLibrary
  spheres : SphereLibrary

end MetesBounds
