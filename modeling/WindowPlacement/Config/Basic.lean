import WindowPlacement.Placement.Dimension

/-!
# Configurations

A configuration names presets for placements and says whether the space that panels
reserve is kept free.  Without a configuration there are no presets, and reserved space is
kept free.
-/

namespace WindowPlacement

/-- The settings of the program. -/
structure Config where
  presets : Presets
  honorStruts : Bool
  deriving BEq, Repr

namespace Config

/-- The configuration that holds where none is given. -/
def default : Config where
  presets := []
  honorStruts := true

end Config

end WindowPlacement
