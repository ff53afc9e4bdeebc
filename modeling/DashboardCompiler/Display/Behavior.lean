import DashboardCompiler.Design.Properties
import DashboardCompiler.Display.Glyphs
import DashboardCompiler.Display.Palette
import DashboardCompiler.Display.Sample
import DashboardCompiler.Generation.Options
import DashboardCompiler.Text.Naming

/-!
# Widget behaviour

What a widget starts with and whether it simulates data. A widget that is bound to a source never
simulates; of the others only sparklines, metric cards and log viewers have a simulation timer, and an
animated progress bar ticks on its own.
-/

namespace DashboardCompiler

/-- The typed properties of a widget together with the state that it starts with. -/
inductive WidgetState where
  | text (properties : TextProperties)
  | lineChart (properties : LineChartProperties) (labels : List String) (values : List Int)
  | barChart (properties : BarChartProperties) (bars : List (String × Int))
  | table (properties : TableProperties) (headers : List String) (rows : List (List String))
  | progressBar (properties : ProgressBarProperties) (percent : Int)
  | sparkline (properties : SparklineProperties) (values : List Int)
  | gauge (properties : GaugeProperties) (value : Number)
  | logViewer (properties : LogViewerProperties) (seed : List (String × String))
  | metricCard (properties : MetricCardProperties) (value : Number) (previous : Option Number)
      (history : List Number)
  | unknown

structure Behavior where
  widget : Widget
  simulate : Bool
  state : WidgetState

namespace WidgetState

def kind? : WidgetState → Option WidgetKind
  | .text .. => some .text
  | .lineChart .. => some .lineChart
  | .barChart .. => some .barChart
  | .table .. => some .table
  | .progressBar .. => some .progressBar
  | .sparkline .. => some .sparkline
  | .gauge .. => some .gauge
  | .logViewer .. => some .logViewer
  | .metricCard .. => some .metricCard
  | .unknown => none

/-- The state that typed properties start with; a bound widget waits for its source. -/
def initial (bound : Bool) : Properties → WidgetState
  | .text p => .text p
  | .lineChart p => .lineChart p Display.Sample.chartLabels Display.Sample.chartValues
  | .barChart p => .barChart p (Display.Sample.bars.take p.maxBars.toNat)
  | .table p => .table p Display.Sample.tableHeaders Display.Sample.tableRows
  | .progressBar p => .progressBar p (if bound || p.animated then 0 else Display.Sample.progress)
  | .sparkline p => .sparkline p (if bound then [] else Display.Sample.sparkline)
  | .gauge p => .gauge p (if bound then p.min else .int Display.Sample.gauge)
  | .logViewer p => .logViewer p (if bound then [] else Display.Sample.log)
  | .metricCard p =>
    if bound then .metricCard p (.double (Double.ofInt 0)) none []
    else .metricCard p Display.Sample.metricValue (some Display.Sample.metricPrevious)
      Display.Sample.metricHistory

end WidgetState

namespace Behavior

def isBound (b : Behavior) : Bool := b.widget.isBound

def kind? (b : Behavior) : Option WidgetKind := b.state.kind?

/-- Whether widgets of this kind have a simulation. -/
def isSimulated : WidgetKind → Bool
  | .sparkline | .metricCard | .logViewer => true
  | _ => false

/-- The period of the widget's timer, if it ever ticks. -/
def tickMs (b : Behavior) : Option Nat :=
  match b.state with
  | .progressBar p _ => if p.animated && !b.isBound then some Display.animationTickMs else none
  | .sparkline .. | .metricCard .. | .logViewer .. =>
    if b.simulate then some Display.simulationTickMs else none
  | _ => none

/-- The colour that the properties of a progress bar choose. -/
def progressColor? (b : Behavior) : Option ProgressColor :=
  match b.state with
  | .progressBar p _ => some p.color
  | _ => none

def colors (b : Behavior) (theme : Theme) : Display.WidgetColors :=
  Display.styledColors b.widget theme b.progressColor?

/-- The name of the type generated for the widget. -/
def typeName (b : Behavior) : String := Name.typeName b.widget.id

def identifier (b : Behavior) : String := Name.identifier b.widget.id

/-- The behaviour of a widget under the options; problems are those of its properties. -/
def ofWidget (w : Widget) (options : Options) : Checked Behavior :=
  match w.kind? with
  | none => .accepted ⟨w, false, .unknown⟩
  | some kind =>
    (Properties.read kind w.properties).map fun p =>
      ⟨w, options.useMockData && !w.isBound, .initial w.isBound p⟩

/-- The behaviours of a list of widgets, or the problems of the first one that has any. -/
def ofWidgets (options : Options) : List Widget → Checked (List Behavior)
  | [] => .accepted []
  | w :: rest =>
    (ofWidget w options).andThen fun b => (ofWidgets options rest).map (b :: ·)

end Behavior

end DashboardCompiler
