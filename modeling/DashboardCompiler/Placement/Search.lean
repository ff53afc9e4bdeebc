import DashboardCompiler.Placement.Box
import DashboardCompiler.Placement.Grid

/-!
# The search for a free spot

A box goes where it is wanted if that spot is free. Otherwise rings of growing radius around the wanted
corner are tried, eight points a ring at steps of 45 degrees from the east on, and the first point where
the box can be placed is taken. The radius stays below the larger side of the canvas.
-/

namespace DashboardCompiler.Search

/-- The cosine and the sine of a direction, as doubles. -/
structure Direction where
  cos : Double
  sin : Double

/-- The eight directions from the east on. Right angles carry the rounding error of the angle in radians. -/
def directions : List Direction :=
  let decimal := Double.ofDecimal
  let whole := Double.ofInt
  [⟨whole 1, whole 0⟩,
   ⟨decimal false 7071067811865476 (-16), decimal false 7071067811865475 (-16)⟩,
   ⟨decimal false 6123233995736766 (-32), whole 1⟩,
   ⟨decimal true 7071067811865475 (-16), decimal false 7071067811865476 (-16)⟩,
   ⟨whole (-1), decimal false 12246467991473532 (-32)⟩,
   ⟨decimal true 7071067811865477 (-16), decimal true 7071067811865475 (-16)⟩,
   ⟨decimal true 18369701987210297 (-32), whole (-1)⟩,
   ⟨decimal false 7071067811865474 (-16), decimal true 7071067811865477 (-16)⟩]

/-- A coordinate moved by a radius along a direction, to the nearest integer, halves up. -/
def offset (start : Int) (radius : Nat) (along : Double) : Except ArithmeticFault Int := do
  let distance := (← Double.ofInt? radius).mul along
  let origin ← Double.ofInt? start
  Grid.roundHalfUp (origin.add distance)

def ringPoint (center : Point) (radius : Nat) (d : Direction) : Except ArithmeticFault Point := do
  return ⟨← offset center.x radius d.cos, ← offset center.y radius d.sin⟩

/-- The first point of a ring where the box can be placed. -/
def firstOnRing (existing : List Box) (extent bounds : Extent) (center : Point) (radius : Nat) :
    List Direction → Except ArithmeticFault (Option Point)
  | [] => .ok none
  | d :: rest => do
    let p ← ringPoint center radius d
    if Box.canPlace existing ⟨p, extent⟩ bounds then return some p
    else firstOnRing existing extent bounds center radius rest

/-- The first such point on a number of rings that start at a radius. -/
def firstOnRings (existing : List Box) (extent bounds : Extent) (center : Point) :
    Nat → Nat → Except ArithmeticFault (Option Point)
  | 0, _ => .ok none
  | rings + 1, radius => do
    match ← firstOnRing existing extent bounds center radius directions with
    | some p => return some p
    | none => firstOnRings existing extent bounds center rings (radius + 1)

/-- The wanted spot or the nearest free one in the order of the rings. -/
def findFree (existing : List Box) (extent : Extent) (wanted : Point) (bounds : Extent) :
    Except ArithmeticFault (Option Point) :=
  if Box.canPlace existing ⟨wanted, extent⟩ bounds then .ok (some wanted)
  else
    firstOnRings existing extent bounds wanted ((max bounds.width bounds.height).toNat - 1) 1

end DashboardCompiler.Search
