import DashboardCompiler.Design.Reading

/-!
# Widget properties

The typed record of each kind of widget, read from the raw properties with every default filled in.
Properties of an unknown type stay as they are. Progress bars and gauges need a range, which is checked
once all their fields are fine.
-/

namespace DashboardCompiler

open Schema

structure TextProperties where
  content : String
  align : TextAlign
  wrap : Bool

structure LineChartProperties where
  xLabel : String
  yLabel : String
  showGrid : Bool
  showLegend : Bool
  maxPoints : Int

structure BarChartProperties where
  orientation : BarOrientation
  showValues : Bool
  showLegend : Bool
  maxBars : Int

structure TableProperties where
  showHeaders : Bool
  sortable : Bool
  filterable : Bool
  maxRows : Int

/-- The bounds keep the integers of their defaults and are doubles when given. -/
structure ProgressBarProperties where
  showPercentage : Bool
  color : ProgressColor
  animated : Bool
  min : Number
  max : Number

structure SparklineProperties where
  style : SparklineStyle
  showMinMax : Bool
  showCurrent : Bool

structure GaugeProperties where
  min : Number
  max : Number
  showValue : Bool
  units : String

structure LogViewerProperties where
  maxLines : Int
  autoScroll : Bool
  showTimestamp : Bool
  filter : String

structure MetricCardProperties where
  label : String
  format : MetricFormat
  trend : Bool
  sparkline : Bool

inductive Properties where
  | text (p : TextProperties)
  | lineChart (p : LineChartProperties)
  | barChart (p : BarChartProperties)
  | table (p : TableProperties)
  | progressBar (p : ProgressBarProperties)
  | sparkline (p : SparklineProperties)
  | gauge (p : GaugeProperties)
  | logViewer (p : LogViewerProperties)
  | metricCard (p : MetricCardProperties)

def TextProperties.read (fields : Fields) : Checked TextProperties :=
  TextProperties.mk
    <$> defaulted fields ⟨"content", []⟩ "Text content" readText
    <*> defaulted fields ⟨"align", []⟩ .left readChoice
    <*> defaulted fields ⟨"wrap", []⟩ true readFlag

def LineChartProperties.read (fields : Fields) : Checked LineChartProperties :=
  LineChartProperties.mk
    <$> defaulted fields ⟨"xLabel", ["x_label"]⟩ "Time" readText
    <*> defaulted fields ⟨"yLabel", ["y_label"]⟩ "Value" readText
    <*> defaulted fields ⟨"showGrid", ["show_grid"]⟩ true readFlag
    <*> defaulted fields ⟨"showLegend", ["show_legend"]⟩ true readFlag
    <*> defaulted fields ⟨"maxPoints", ["max_points"]⟩ 50 (readInteger (some 10) (some 500))

def BarChartProperties.read (fields : Fields) : Checked BarChartProperties :=
  BarChartProperties.mk
    <$> defaulted fields ⟨"orientation", []⟩ .vertical readChoice
    <*> defaulted fields ⟨"showValues", ["show_values"]⟩ true readFlag
    <*> defaulted fields ⟨"showLegend", ["show_legend"]⟩ true readFlag
    <*> defaulted fields ⟨"maxBars", ["max_bars"]⟩ 10 (readInteger (some 1) (some 50))

def TableProperties.read (fields : Fields) : Checked TableProperties :=
  TableProperties.mk
    <$> defaulted fields ⟨"showHeaders", ["show_headers"]⟩ true readFlag
    <*> defaulted fields ⟨"sortable", []⟩ true readFlag
    <*> defaulted fields ⟨"filterable", []⟩ false readFlag
    <*> defaulted fields ⟨"maxRows", ["max_rows"]⟩ 100 (readInteger (some 1) (some 1000))

/-- A bound that is given is a double. -/
def readBound (v : Json) : Checked Number := (readDouble v).map .double

/-- The greatest value must not be at or below the least; a comparison with nan refuses nothing. -/
def checkRange {α : Type} (least greatest : Number) (record : α) : Checked α :=
  if greatest.le least then .fail .emptyRange else .accepted record

def ProgressBarProperties.read (fields : Fields) : Checked ProgressBarProperties :=
  Checked.andThen
    (ProgressBarProperties.mk
      <$> defaulted fields ⟨"showPercentage", ["show_percentage"]⟩ true readFlag
      <*> defaulted fields ⟨"color", []⟩ .blue readChoice
      <*> defaulted fields ⟨"animated", []⟩ false readFlag
      <*> defaulted fields ⟨"min", []⟩ (.int 0) readBound
      <*> defaulted fields ⟨"max", []⟩ (.int 100) readBound)
    fun p => checkRange p.min p.max p

def SparklineProperties.read (fields : Fields) : Checked SparklineProperties :=
  SparklineProperties.mk
    <$> defaulted fields ⟨"style", []⟩ .line readChoice
    <*> defaulted fields ⟨"showMinMax", ["show_min_max"]⟩ true readFlag
    <*> defaulted fields ⟨"showCurrent", ["show_current"]⟩ true readFlag

def GaugeProperties.read (fields : Fields) : Checked GaugeProperties :=
  Checked.andThen
    (GaugeProperties.mk
      <$> defaulted fields ⟨"min", []⟩ (.int 0) readBound
      <*> defaulted fields ⟨"max", []⟩ (.int 100) readBound
      <*> defaulted fields ⟨"showValue", ["show_value"]⟩ true readFlag
      <*> defaulted fields ⟨"units", []⟩ "%" readText)
    fun p => checkRange p.min p.max p

def LogViewerProperties.read (fields : Fields) : Checked LogViewerProperties :=
  LogViewerProperties.mk
    <$> defaulted fields ⟨"maxLines", ["max_lines"]⟩ 1000 (readInteger (some 1) (some 100000))
    <*> defaulted fields ⟨"autoScroll", ["auto_scroll"]⟩ true readFlag
    <*> defaulted fields ⟨"showTimestamp", ["show_timestamp"]⟩ true readFlag
    <*> defaulted fields ⟨"filter", []⟩ "" readText

def MetricCardProperties.read (fields : Fields) : Checked MetricCardProperties :=
  MetricCardProperties.mk
    <$> defaulted fields ⟨"label", []⟩ "Metric" readText
    <*> defaulted fields ⟨"format", []⟩ .number readChoice
    <*> defaulted fields ⟨"trend", []⟩ false readFlag
    <*> defaulted fields ⟨"sparkline", []⟩ false readFlag

/-- The properties of a widget of a known kind. -/
def Properties.read (kind : WidgetKind) (fields : Fields) : Checked Properties :=
  match kind with
  | .text => .text <$> TextProperties.read fields
  | .lineChart => .lineChart <$> LineChartProperties.read fields
  | .barChart => .barChart <$> BarChartProperties.read fields
  | .table => .table <$> TableProperties.read fields
  | .progressBar => .progressBar <$> ProgressBarProperties.read fields
  | .sparkline => .sparkline <$> SparklineProperties.read fields
  | .gauge => .gauge <$> GaugeProperties.read fields
  | .logViewer => .logViewer <$> LogViewerProperties.read fields
  | .metricCard => .metricCard <$> MetricCardProperties.read fields

end DashboardCompiler
