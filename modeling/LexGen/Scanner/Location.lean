/-!
# Source locations

The span of a match: lines count from one and columns from zero; the offsets count characters from the start
of the source.
-/

namespace LexGen

/-- The span of a match. Pushing text back can move any bound below its natural origin, so all are
integers. -/
structure Location where
  firstLine : Int := 1
  firstColumn : Int := 0
  lastLine : Int := 1
  lastColumn : Int := 0
  /-- The offsets of the first character and of the end, when they are tracked. -/
  range : Option (Int × Int) := none
  deriving DecidableEq, Repr

def Location.extend (c : Char) (loc : Location) : Location :=
  let loc := { loc with range := loc.range.map fun (first, last) => (first, last + 1) }
  if c = '\n' then { loc with lastLine := loc.lastLine + 1 } else { loc with lastColumn := loc.lastColumn + 1 }

end LexGen
