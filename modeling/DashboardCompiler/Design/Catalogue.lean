import DashboardCompiler.Design.Dump

/-!
# The widget catalogue

What the editor's palette shows for each kind of widget, and the properties that a new widget starts with.
-/

namespace DashboardCompiler

structure CatalogueEntry where
  kind : WidgetKind
  name : String
  icon : String
  description : String
  defaultSize : Extent
  minSize : Extent

namespace WidgetKind

def entry : WidgetKind → CatalogueEntry
  | .text => ⟨.text, "Text", "[T]", "Static or dynamic text display", ⟨20, 5⟩, ⟨10, 3⟩⟩
  | .lineChart =>
    ⟨.lineChart, "Line Chart", "[/]", "Line graph for time-series data", ⟨40, 15⟩, ⟨20, 10⟩⟩
  | .barChart =>
    ⟨.barChart, "Bar Chart", "[|]", "Horizontal or vertical bar charts", ⟨40, 15⟩, ⟨20, 10⟩⟩
  | .table => ⟨.table, "Table", "[#]", "Data tables with sorting/filtering", ⟨40, 20⟩, ⟨20, 10⟩⟩
  | .progressBar => ⟨.progressBar, "Progress Bar", "[=]", "Progress indicators", ⟨30, 3⟩, ⟨15, 3⟩⟩
  | .sparkline => ⟨.sparkline, "Sparkline", "[.]", "Compact trend indicators", ⟨20, 5⟩, ⟨10, 3⟩⟩
  | .gauge => ⟨.gauge, "Gauge", "[O]", "Circular progress indicators", ⟨15, 10⟩, ⟨10, 8⟩⟩
  | .logViewer => ⟨.logViewer, "Log Viewer", "[L]", "Scrollable log display", ⟨50, 20⟩, ⟨30, 10⟩⟩
  | .metricCard => ⟨.metricCard, "Metric Card", "[M]", "Single metric display", ⟨15, 8⟩, ⟨10, 6⟩⟩

/-- A default as documents hold it, where every bound is a double. -/
def boundsAsDoubles : Properties → Properties
  | .progressBar p => .progressBar { p with min := asDouble p.min, max := asDouble p.max }
  | .gauge p => .gauge { p with min := asDouble p.min, max := asDouble p.max }
  | p => p
where
  asDouble : Number → Number
    | .int n => .double (Double.ofInt n)
    | n => n

/-- The properties of a new widget as a document. -/
def defaultProperties (kind : WidgetKind) : Checked Json :=
  (fun p => (boundsAsDoubles p).toJson) <$> Properties.read kind []

end WidgetKind

def catalogue : List CatalogueEntry := (Named.members : List WidgetKind).map WidgetKind.entry

end DashboardCompiler
