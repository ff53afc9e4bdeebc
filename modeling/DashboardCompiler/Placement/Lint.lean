import DashboardCompiler.Placement.Box

/-!
# Layout warnings

Advice on a layout: boxes that leave the canvas, and each pair of boxes that share a cell, once and in
document order.
-/

namespace DashboardCompiler

/-- A box with the id that warnings call it by. -/
structure Placed where
  id : String
  box : Box

inductive LayoutWarning where
  | negativePosition (id : String)
  | exceedsWidth (id : String)
  | exceedsHeight (id : String)
  | overlap (first second : String)
  deriving DecidableEq, Repr

def LayoutWarning.message : LayoutWarning → String
  | .negativePosition id => "Widget " ++ id ++ " has negative position"
  | .exceedsWidth id => "Widget " ++ id ++ " exceeds dashboard width"
  | .exceedsHeight id => "Widget " ++ id ++ " exceeds dashboard height"
  | .overlap first second => "Widget " ++ first ++ " overlaps with " ++ second

namespace Placed

def boundsWarnings (bounds : Extent) (p : Placed) : List LayoutWarning :=
  (if p.box.corner.x < 0 ∨ p.box.corner.y < 0 then [.negativePosition p.id] else []) ++
  (if bounds.width < p.box.corner.x + p.box.extent.width then [.exceedsWidth p.id] else []) ++
  (if bounds.height < p.box.corner.y + p.box.extent.height then [.exceedsHeight p.id] else [])

def allBoundsWarnings (ps : List Placed) (bounds : Extent) : List LayoutWarning :=
  ps.flatMap (boundsWarnings bounds)

/-- The pairs of a list whose boxes overlap, the earlier one first. -/
def collisions : List Placed → List LayoutWarning
  | [] => []
  | p :: rest =>
    (rest.filter fun q => p.box.overlaps q.box).map (fun q => .overlap p.id q.id) ++ collisions rest

def lint (ps : List Placed) (bounds : Extent) : List LayoutWarning :=
  allBoundsWarnings ps bounds ++ collisions ps

end Placed

end DashboardCompiler
