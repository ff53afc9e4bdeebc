import DashboardCompiler.Schema.Named

/-!
# The enumerations of a design

Each with its members in their order and their names in documents.
-/

namespace DashboardCompiler

/-- The runtimes that a dashboard can be generated for. -/
inductive Framework where
  | textual
  | bubbleTea
  | ratatui
  | blessed
  deriving DecidableEq, Repr

instance : Named Framework where
  members := [.textual, .bubbleTea, .ratatui, .blessed]
  name
    | .textual => "textual"
    | .bubbleTea => "bubble_tea"
    | .ratatui => "ratatui"
    | .blessed => "blessed"

inductive Theme where
  | dark
  | light
  | monokai
  | dracula
  | nord
  | custom
  deriving DecidableEq, Repr

instance : Named Theme where
  members := [.dark, .light, .monokai, .dracula, .nord, .custom]
  name
    | .dark => "dark"
    | .light => "light"
    | .monokai => "monokai"
    | .dracula => "dracula"
    | .nord => "nord"
    | .custom => "custom"

/-- The nine widgets that every target renders. -/
inductive WidgetKind where
  | text
  | lineChart
  | barChart
  | table
  | progressBar
  | sparkline
  | gauge
  | logViewer
  | metricCard
  deriving DecidableEq, Repr

instance : Named WidgetKind where
  members := [.text, .lineChart, .barChart, .table, .progressBar, .sparkline, .gauge, .logViewer,
    .metricCard]
  name
    | .text => "text"
    | .lineChart => "line_chart"
    | .barChart => "bar_chart"
    | .table => "table"
    | .progressBar => "progress_bar"
    | .sparkline => "sparkline"
    | .gauge => "gauge"
    | .logViewer => "log_viewer"
    | .metricCard => "metric_card"

inductive BorderStyle where
  | single
  | double
  | rounded
  | heavy
  | ascii
  | none
  deriving DecidableEq, Repr

instance : Named BorderStyle where
  members := [.single, .double, .rounded, .heavy, .ascii, .none]
  name
    | .single => "single"
    | .double => "double"
    | .rounded => "rounded"
    | .heavy => "heavy"
    | .ascii => "ascii"
    | .none => "none"

inductive TextAlign where
  | left
  | center
  | right
  deriving DecidableEq, Repr

instance : Named TextAlign where
  members := [.left, .center, .right]
  name
    | .left => "left"
    | .center => "center"
    | .right => "right"

inductive BarOrientation where
  | vertical
  | horizontal
  deriving DecidableEq, Repr

instance : Named BarOrientation where
  members := [.vertical, .horizontal]
  name
    | .vertical => "vertical"
    | .horizontal => "horizontal"

inductive ProgressColor where
  | blue
  | green
  | yellow
  | red
  deriving DecidableEq, Repr

instance : Named ProgressColor where
  members := [.blue, .green, .yellow, .red]
  name
    | .blue => "blue"
    | .green => "green"
    | .yellow => "yellow"
    | .red => "red"

inductive SparklineStyle where
  | line
  | bar
  deriving DecidableEq, Repr

instance : Named SparklineStyle where
  members := [.line, .bar]
  name
    | .line => "line"
    | .bar => "bar"

inductive MetricFormat where
  | number
  | percentage
  | bytes
  deriving DecidableEq, Repr

instance : Named MetricFormat where
  members := [.number, .percentage, .bytes]
  name
    | .number => "number"
    | .percentage => "percentage"
    | .bytes => "bytes"

/-- What a source can sample of the host. -/
inductive SystemMetric where
  | cpuPercent
  | memoryPercent
  | memoryUsed
  | memoryTotal
  | diskPercent
  | diskUsed
  | diskTotal
  | networkIn
  | networkOut
  | processCount
  | loadAverage
  deriving DecidableEq, Repr

instance : Named SystemMetric where
  members := [.cpuPercent, .memoryPercent, .memoryUsed, .memoryTotal, .diskPercent, .diskUsed,
    .diskTotal, .networkIn, .networkOut, .processCount, .loadAverage]
  name
    | .cpuPercent => "cpu_percent"
    | .memoryPercent => "memory_percent"
    | .memoryUsed => "memory_used"
    | .memoryTotal => "memory_total"
    | .diskPercent => "disk_percent"
    | .diskUsed => "disk_used"
    | .diskTotal => "disk_total"
    | .networkIn => "network_in"
    | .networkOut => "network_out"
    | .processCount => "process_count"
    | .loadAverage => "load_average"

inductive HttpMethod where
  | get
  | post
  deriving DecidableEq, Repr

instance : Named HttpMethod where
  members := [.get, .post]
  name
    | .get => "GET"
    | .post => "POST"

/-- One entry file, or one file for each part. -/
inductive OutputFormat where
  | single
  | modular
  deriving DecidableEq, Repr

instance : Named OutputFormat where
  members := [.single, .modular]
  name
    | .single => "single"
    | .modular => "modular"

end DashboardCompiler
