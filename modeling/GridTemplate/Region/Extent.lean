-- Sizes of regions.

namespace GridTemplate

/-- A size in cells. -/
structure Extent where
  width : Nat
  height : Nat
  deriving DecidableEq, Repr

/-- How many cells an extent covers. -/
def Extent.cellCount (e : Extent) : Nat := e.width * e.height

end GridTemplate
