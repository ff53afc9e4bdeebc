import DashboardCompiler.Display.Behavior

/-!
# Scenes

What every generation step sees of one run: the design, the options, and the behaviour of each widget in
document order.
-/

namespace DashboardCompiler

/-- Which generated source file a header or a footer belongs to. -/
inductive FileRole where
  | single
  | app
  | widgets
  | dataSources
  deriving DecidableEq, Repr

instance : Named FileRole where
  members := [.single, .app, .widgets, .dataSources]
  name
    | .single => "single"
    | .app => "app"
    | .widgets => "widgets"
    | .dataSources => "data_sources"

structure Scene where
  design : Design
  options : Options
  behaviors : List Behavior

namespace Scene

/-- The scene of a design, or the problems of the first widget whose properties do not fit. -/
def ofDesign (d : Design) (options : Options) : Checked Scene :=
  (Behavior.ofWidgets options d.widgets).map fun behaviors => ⟨d, options, behaviors⟩

def isModular (s : Scene) : Bool := s.options.isModular

def hasDataSources (s : Scene) : Bool := s.design.hasDataSources

def boundBehaviors (s : Scene) : List Behavior := s.behaviors.filter (·.isBound)

/-- The entry file of the output format. -/
def entryFile (s : Scene) (single app : String) : String := if s.isModular then app else single

end Scene

end DashboardCompiler
