/-!
# Boxes on a canvas

Boxes are half-open rectangles of cells, so boxes that only share an edge or a corner do not overlap.
Nothing here assumes that a box has a positive size or lies on the canvas.
-/

namespace DashboardCompiler

/-- A corner, in cells from the left and from the top. -/
structure Point where
  x : Int
  y : Int
  deriving DecidableEq, Repr

/-- A width and a height in cells, of a box or of the whole canvas. -/
structure Extent where
  width : Int
  height : Int
  deriving DecidableEq, Repr

structure Box where
  corner : Point
  extent : Extent
  deriving DecidableEq, Repr

namespace Box

/-- A cell belongs to a box when it lies in its half-open rectangle. -/
def Covers (b : Box) (column row : Int) : Prop :=
  b.corner.x ≤ column ∧ column < b.corner.x + b.extent.width ∧
    b.corner.y ≤ row ∧ row < b.corner.y + b.extent.height

/-- No edge of one box is at or past the opposite edge of the other. -/
def overlaps (a b : Box) : Bool :=
  !(decide (a.corner.x + a.extent.width ≤ b.corner.x) ||
    decide (b.corner.x + b.extent.width ≤ a.corner.x) ||
    decide (a.corner.y + a.extent.height ≤ b.corner.y) ||
    decide (b.corner.y + b.extent.height ≤ a.corner.y))

theorem overlaps_comm (a b : Box) : a.overlaps b = b.overlaps a := by
  simp only [overlaps]
  congr 1
  simp only [Bool.or_comm, Bool.or_assoc, Bool.or_left_comm]

/-- Whether the box lies inside a canvas. -/
def fits (b : Box) (bounds : Extent) : Bool :=
  decide (0 ≤ b.corner.x) && decide (0 ≤ b.corner.y) &&
    decide (b.corner.x + b.extent.width ≤ bounds.width) &&
    decide (b.corner.y + b.extent.height ≤ bounds.height)

/-- Whether the box may be put on a canvas that holds other boxes. -/
def canPlace (existing : List Box) (b : Box) (bounds : Extent) : Bool :=
  b.fits bounds && !existing.any (b.overlaps ·)

end Box

end DashboardCompiler
