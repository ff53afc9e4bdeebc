import DashboardCompiler.Number

/-!
# Grid snapping

A coordinate snaps to the nearest multiple of the grid, halves up. The quotient and the added half are
doubles, the multiple is exact.
-/

namespace DashboardCompiler.Grid

def half : Double := Double.ofDecimal false 5 (-1)

/-- The integer nearest to a double, halves up: the floor of the rounded sum with one half. -/
def roundHalfUp (x : Double) : Except ArithmeticFault Int := (x.add half).floor

def snapCoordinate (grid : Int) (n : Number) : Except ArithmeticFault Int := do
  let steps ← roundHalfUp (← n.div (.int grid))
  return steps * grid

/-- Both coordinates at the nearest grid point. -/
def snap (x y : Number) (grid : Int) : Except ArithmeticFault (Int × Int) := do
  return (← snapCoordinate grid x, ← snapCoordinate grid y)

end DashboardCompiler.Grid
