import DashboardCompiler.Design.Kinds
import DashboardCompiler.Json.Basic
import DashboardCompiler.Placement.Lint
import DashboardCompiler.Unicode.Case
import DashboardCompiler.Text.Lines

/-!
# Designs

A design is a whole dashboard: what it is called, the canvas, the widgets in document order, and the data
sources that widgets bind to by id. A widget keeps its type as text and its properties as given; which
types exist and what their properties mean is decided by `Design.Properties` and `Design.Validation`.
-/

namespace DashboardCompiler

structure Metadata where
  name : String
  description : Option String
  author : Option String
  version : String
  created : Option String
  modified : Option String
  targetFramework : Framework
  tags : List String

structure Settings where
  dimensions : Extent
  gridSize : Int
  theme : Theme
  refreshRate : Int
  autoResize : Bool

structure WidgetStyle where
  borderStyle : BorderStyle
  borderColor : Option String
  backgroundColor : Option String
  textColor : Option String
  padding : Int

structure Widget where
  id : String
  type : String
  position : Point
  size : Extent
  title : Option String
  dataSource : Option String
  style : Option WidgetStyle
  properties : List (String × Json)

structure ApiConfig where
  url : String
  method : HttpMethod
  headers : Option (List (String × String))
  interval : Int

/-- Where the values of a source come from. -/
inductive SourceConfig where
  | static (value : Json)
  | systemMetric (metric : SystemMetric) (interval : Int)
  | api (config : ApiConfig)
  | file (path : String) (watch : Bool)
  | command (command : String) (interval : Int)

structure DataSource where
  id : String
  name : Option String
  config : SourceConfig

structure Design where
  version : String
  metadata : Metadata
  settings : Settings
  widgets : List Widget
  dataSources : List DataSource

namespace Widget

def box (w : Widget) : Box := ⟨w.position, w.size⟩

def placed (w : Widget) : Placed := ⟨w.id, w.box⟩

/-- The kind of the widget, unless its type is unknown. -/
def kind? (w : Widget) : Option WidgetKind := Named.ofName? w.type

def isBound (w : Widget) : Bool := w.dataSource.isSome

/-- The title, or the type as words if there is none. -/
def displayTitle (w : Widget) : String :=
  match w.title with
  | some t => if t.isEmpty then Unicode.title (Text.replaceAll w.type "_" " ") else t
  | none => Unicode.title (Text.replaceAll w.type "_" " ")

/-- Columns inside a border of one cell, at least one. -/
def innerWidth (w : Widget) : Int := max (w.size.width - 2) 1

def innerHeight (w : Widget) : Int := max (w.size.height - 2) 1

end Widget

namespace SourceConfig

/-- The name of the kind of source, which tags it in documents. -/
def kind : SourceConfig → String
  | .static _ => "static"
  | .systemMetric .. => "system_metric"
  | .api _ => "api"
  | .file .. => "file"
  | .command .. => "command"

/-- The least time between two fetches in milliseconds; static and file sources have none. -/
def interval? : SourceConfig → Option Int
  | .systemMetric _ interval => some interval
  | .api config => some config.interval
  | .command _ interval => some interval
  | .static _ | .file .. => none

def isSystemMetric : SourceConfig → Bool
  | .systemMetric .. => true
  | _ => false

end SourceConfig

namespace Design

def hasDataSources (d : Design) : Bool := !d.dataSources.isEmpty

def source? (d : Design) (id : String) : Option DataSource := d.dataSources.find? (·.id = id)

/-- The widgets that a source feeds, in document order. -/
def widgetsBoundTo (d : Design) (id : String) : List Widget :=
  d.widgets.filter (·.dataSource = some id)

/-- Whether a widget names the source; an empty name binds nothing. -/
def isReferenced (d : Design) (id : String) : Bool :=
  d.widgets.any fun w => w.dataSource = some id && !id.isEmpty

/-- The declared sources that a widget binds to, in the order of their declaration. -/
def referencedSources (d : Design) : List DataSource :=
  d.dataSources.filter fun s => d.isReferenced s.id

def usesSystemMetrics (d : Design) : Bool := d.referencedSources.any (·.config.isSystemMetric)

def lint (d : Design) : List LayoutWarning :=
  Placed.lint (d.widgets.map Widget.placed) d.settings.dimensions

end Design

end DashboardCompiler
