import MetesBounds.Measure.Powers
import MetesBounds.Text.Pieces

/-!
# `Measure/NamedUnit` — the units that have names

A unit is either a base of the system, with a dimension of its own, or so many times a product of
other units. So a foot is a third of a yard, and a yard 0.9144 meters; a conversion multiplies
powers of these numbers, one for each unit, in the order in which the definitions lead to the bases,
and rounds as it goes. Names may be put into the plural with an `s`, and a prefix in front of a name
makes a multiple of its unit.
-/

set_option autoImplicit false

namespace MetesBounds

/-- What a unit is. -/
inductive Standard where
  /-- A base of the system, which has a dimension of its own. -/
  | base (dimension : String)
  /-- So many times a product of other units. -/
  | multiple (scale : Number) (factors : Powers)

/-- A named unit: its names, the first of which it is shown by, and what it is. -/
structure NamedUnit where
  names : List String
  standard : Standard

/-- A prefix: its names, the first of which it is shown by, and what it multiplies a unit by. -/
structure UnitPrefix where
  names : List String
  scale : Number

namespace NamedUnit

/-- Powers with whole exponents. -/
def wholePowers (factors : List (String × Int)) : Powers := factors.map fun f => (f.1, .whole f.2)

/-- A base of the system. -/
def base (names : List String) (dimension : String) : NamedUnit := ⟨names, .base dimension⟩

/-- A unit that is a whole number of others. -/
def whole (names : List String) (n : Int) (factors : List (String × Int)) : NamedUnit :=
  ⟨names, .multiple (.whole n) (wholePowers factors)⟩

/-- A unit that is a number of others that need not be whole. -/
def part (names : List String) (x : Float) (factors : List (String × Int)) : NamedUnit :=
  ⟨names, .multiple (.real x) (wholePowers factors)⟩

/-- The known units. -/
def all : List NamedUnit := [
  base ["meter", "m", "metre"] "[length]",
  base ["second", "s", "sec"] "[time]",
  base ["ampere", "A", "amp"] "[current]",
  base ["candela", "cd", "candle"] "[luminosity]",
  base ["gram", "g"] "[mass]",
  base ["mole", "mol"] "[substance]",
  base ["kelvin", "K", "degK", "degree_Kelvin", "degreeK"] "[temperature]",
  base ["radian", "rad"] "[]",
  base ["bit"] "[]",
  base ["count"] "[]",
  part ["percent"] 0.01 [],
  part ["permille"] 0.001 [],
  part ["ppm"] 1e-6 [],
  part ["pi", "π"] 3.141592653589793 [],
  whole ["turn", "revolution", "cycle", "circle"] 2 [("pi", 1), ("radian", 1)],
  part ["degree", "deg", "arcdeg", "arcdegree", "angular_degree"] (1.0 / 180.0) [("pi", 1),
    ("radian", 1)],
  part ["arcminute", "arcmin", "arc_minute", "angular_minute"] (1.0 / 60.0) [("degree", 1)],
  part ["arcsecond", "arcsec", "arc_second", "angular_second"] (1.0 / 60.0) [("arcminute", 1)],
  part ["grade", "grad", "gon"] 0.9 [("degree", 1)],
  whole ["nautical_mile", "nmi"] 1852 [("meter", 1)],
  part ["angstrom", "Å", "ångström", "Å"] 1e-10 [("meter", 1)],
  whole ["minute", "min"] 60 [("second", 1)],
  whole ["hour", "h", "hr"] 60 [("minute", 1)],
  whole ["day", "d"] 24 [("hour", 1)],
  whole ["week"] 7 [("day", 1)],
  whole ["fortnight"] 2 [("week", 1)],
  part ["year", "a", "yr", "julian_year"] 365.25 [("day", 1)],
  part ["month"] (1.0 / 12.0) [("year", 1)],
  part ["yard", "yd", "international_yard"] 0.9144 [("meter", 1)],
  part ["inch", "in", "international_inch", "inches",
    "international_inches"] (1.0 / 36.0) [("yard", 1)],
  part ["thou", "th", "mil_length"] 0.001 [("inch", 1)],
  whole ["hand"] 4 [("inch", 1)],
  part ["foot", "ft", "international_foot", "feet", "international_feet"] (1.0 / 3.0) [("yard", 1)],
  whole ["mile", "mi", "international_mile"] 1760 [("yard", 1)],
  whole ["square_inch", "sq_in", "square_inches"] 1 [("inch", 2)],
  whole ["square_foot", "sq_ft", "square_feet"] 1 [("foot", 2)],
  whole ["square_yard", "sq_yd"] 1 [("yard", 2)],
  whole ["square_mile", "sq_mi"] 1 [("mile", 2)],
  whole ["cubic_inch", "cu_in"] 1 [("inch", 3)],
  whole ["cubic_foot", "cu_ft", "cubic_feet"] 1 [("foot", 3)],
  whole ["cubic_yard", "cu_yd"] 1 [("yard", 3)],
  part ["survey_foot", "sft"] (1200.0 / 3937.0) [("meter", 1)],
  whole ["fathom"] 6 [("survey_foot", 1)],
  part ["rod", "rd", "pole", "perch"] 16.5 [("survey_foot", 1)],
  whole ["chain"] 4 [("rod", 1)],
  part ["link", "li", "survey_link"] 0.01 [("chain", 1)],
  whole ["furlong", "fur"] 40 [("rod", 1)],
  whole ["cables_length"] 120 [("fathom", 1)],
  whole ["survey_mile", "smi", "us_statute_mile"] 5280 [("survey_foot", 1)],
  whole ["league"] 3 [("survey_mile", 1)],
  whole ["acre"] 10 [("chain", 2)],
  whole ["square_survey_mile", "section"] 1 [("survey_mile", 2)],
  part ["vara"] (100.0 / 3.0) [("inch", 1)]
]

/-- The known prefixes, in the order in which they are tried. -/
def prefixes : List UnitPrefix := [
  ⟨["quecto", "q"], .real 1e-30⟩,
  ⟨["ronto", "r"], .real 1e-27⟩,
  ⟨["yocto", "y"], .real 1e-24⟩,
  ⟨["zepto", "z"], .real 1e-21⟩,
  ⟨["atto", "a"], .real 1e-18⟩,
  ⟨["femto", "f"], .real 1e-15⟩,
  ⟨["pico", "p"], .real 1e-12⟩,
  ⟨["nano", "n"], .real 1e-9⟩,
  ⟨["micro", "µ", "μ", "u", "mu", "mc"], .real 1e-6⟩,
  ⟨["milli", "m"], .real 0.001⟩,
  ⟨["centi", "c"], .real 0.01⟩,
  ⟨["deci", "d"], .real 0.1⟩,
  ⟨["deca", "da", "deka"], .real 10.0⟩,
  ⟨["hecto", "h"], .real 100.0⟩,
  ⟨["kilo", "k"], .real 1000.0⟩,
  ⟨["mega", "M"], .real 1000000.0⟩,
  ⟨["giga", "G"], .real 1000000000.0⟩,
  ⟨["tera", "T"], .real 1000000000000.0⟩,
  ⟨["peta", "P"], .real 1000000000000000.0⟩,
  ⟨["exa", "E"], .real 1e18⟩,
  ⟨["zetta", "Z"], .real 1e21⟩,
  ⟨["yotta", "Y"], .real 1e24⟩,
  ⟨["ronna", "R"], .real 1e27⟩,
  ⟨["quetta", "Q"], .real 1e30⟩,
  ⟨["kibi", "Ki"], .whole 0x400⟩,
  ⟨["mebi", "Mi"], .whole 0x100000⟩,
  ⟨["gibi", "Gi"], .whole 0x40000000⟩,
  ⟨["tebi", "Ti"], .whole 0x10000000000⟩,
  ⟨["pebi", "Pi"], .whole 0x4000000000000⟩,
  ⟨["exbi", "Ei"], .whole 0x1000000000000000⟩,
  ⟨["zebi", "Zi"], .whole 0x400000000000000000⟩,
  ⟨["yobi", "Yi"], .whole 0x100000000000000000000⟩,
  ⟨["semi", "demi"], .real 0.5⟩,
  ⟨["sesqui"], .real 1.5⟩
]

/-- The steps from any unit or dimension to the bases are fewer than this. -/
def steps : Nat := 16

/-- The name that a unit is shown by. -/
def shown (u : NamedUnit) : String := u.names.headD ""

/-- The unit of a name. -/
def ofName? (name : String) : Option NamedUnit := all.find? fun u => u.names.contains name

/-- The unit of a name, perhaps with a prefix in front of it, where the name without the prefix is
of some class; and the name that the unit is shown by. -/
def ofClass? (p : String → Bool) (name : String) : Option (String × Standard) :=
  match if p name then ofName? name else none with
  | some u => some (u.shown, u.standard)
  | none =>
    prefixes.findSome? fun start =>
      start.names.findSome? fun before =>
        (((Text.afterStart? before name).filter p).bind ofName?).map fun u =>
          (start.names.headD "" ++ u.shown, .multiple start.scale [(u.shown, .whole 1)])

/-- The unit that a name in the singular stands for. -/
def ofSingular? : String → Option (String × Standard) := ofClass? fun _ => true

/-- The unit that a name in the plural stands for. A single letter has no plural. -/
def ofPlural? (name : String) : Option (String × Standard) :=
  (Text.beforeEnd? "s" name).bind (ofClass? fun singular => singular.length != 1)

/-- The unit that a name stands for: the name that it is shown by, and what it is. -/
def find (name : String) : Except Error (String × Standard) :=
  match (ofSingular? name).or (ofPlural? name) with
  | some u => .ok u
  | none => .error (.undefinedUnit name)

end NamedUnit

end MetesBounds
