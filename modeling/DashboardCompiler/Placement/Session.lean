import DashboardCompiler.Placement.Lint
import DashboardCompiler.Placement.Search

/-!
# Editor sessions

A canvas is its bounds and its boxes in the order they were put down. A step gives an answer and the
next canvas; a step that fails leaves the canvas as it was.
-/

namespace DashboardCompiler

structure Canvas where
  bounds : Extent
  boxes : List Placed

namespace Canvas

inductive Step where
  /-- the nearest free spot, after snapping to a grid if there is one -/
  | place (id : String) (wanted : Point) (extent : Extent) (grid : Option Int)
  /-- put down as it is -/
  | force (p : Placed)
  | move (id : String) (corner : Point)
  | remove (id : String)
  | resize (bounds : Extent)
  | lint

inductive Answer where
  | done
  | spot (p : Option Point)
  | moved (accepted : Bool)
  | warnings (ws : List LayoutWarning)

/-- The first box with an id gets a new corner. -/
def moveFirst (id : String) (corner : Point) : List Placed → List Placed
  | [] => []
  | p :: rest =>
    if p.id = id then { p with box := { p.box with corner } } :: rest
    else p :: moveFirst id corner rest

/-- The wanted corner, on the grid if there is one. -/
def wantedCorner (wanted : Point) : Option Int → Except ArithmeticFault Point
  | none => .ok wanted
  | some g => do
    let (x, y) ← Grid.snap (.int wanted.x) (.int wanted.y) g
    return ⟨x, y⟩

def place (c : Canvas) (id : String) (wanted : Point) (extent : Extent) (grid : Option Int) :
    Except ArithmeticFault (Answer × Canvas) := do
  let corner ← wantedCorner wanted grid
  match ← Search.findFree (c.boxes.map (·.box)) extent corner c.bounds with
  | none => return (.spot none, c)
  | some p => return (.spot (some p), { c with boxes := c.boxes ++ [⟨id, p, extent⟩] })

def move (c : Canvas) (id : String) (corner : Point) : Answer × Canvas :=
  match c.boxes.find? (·.id = id) with
  | none => (.moved false, c)
  | some p =>
    let others := (c.boxes.filter (·.id ≠ id)).map (·.box)
    if Box.canPlace others ⟨corner, p.box.extent⟩ c.bounds then
      (.moved true, { c with boxes := moveFirst id corner c.boxes })
    else (.moved false, c)

def apply (c : Canvas) : Step → Except ArithmeticFault (Answer × Canvas)
  | .place id wanted extent grid => c.place id wanted extent grid
  | .force p => .ok (.done, { c with boxes := c.boxes ++ [p] })
  | .move id corner => .ok (c.move id corner)
  | .remove id => .ok (.done, { c with boxes := c.boxes.filter (·.id ≠ id) })
  | .resize bounds => .ok (.done, { c with bounds })
  | .lint => .ok (.warnings (Placed.lint c.boxes c.bounds), c)

/-- The answers of a session, each with the canvas after its step. -/
def run (c : Canvas) : List Step → List (Except ArithmeticFault Answer × Canvas)
  | [] => []
  | step :: rest =>
    match c.apply step with
    | .error fault => (.error fault, c) :: run c rest
    | .ok (answer, next) => (.ok answer, next) :: run next rest

end Canvas

end DashboardCompiler
