import DashboardCompiler.Display.Behavior
import DashboardCompiler.Target.Blessed.Literal
import DashboardCompiler.Text.Comment

/-!
# Widgets of blessed programs

Each widget becomes a class that keeps its state as properties and never touches the screen. A widget that
ticks more slowly than the animation counts the time that has passed.
-/

namespace DashboardCompiler.Blessed

/-- A property and the expression that it starts with. -/
structure Field where
  name : String
  initial : String

/-- What one kind of widget puts into the common class. -/
structure ClassParts where
  description : String
  fields : List Field
  init : List String
  render : List String
  update : List String
  tick : Option (List String)
  methods : List String

/-- The period of the widget's timer and what it does, if it ever ticks. -/
def ClassParts.timer? (parts : ClassParts) (b : Behavior) : Option (Nat × List String) := do
  let body ← parts.tick
  let ms ← b.tickMs
  return (ms, body)

/-- Whether the widget has to count animation ticks. -/
def countsTicks : Option (Nat × List String) → Bool
  | some (ms, _) => ms ≠ Display.animationTickMs
  | none => false

def allFields (b : Behavior) (parts : ClassParts) : List Field :=
  [⟨"title", text b.widget.displayTitle⟩,
   ⟨"width", int b.widget.innerWidth⟩,
   ⟨"height", int b.widget.innerHeight⟩] ++
  (if countsTicks (parts.timer? b) then [⟨"elapsed", "0"⟩] else []) ++ parts.fields

/-- A method with its body on lines of its own, or on one line if it does nothing. -/
def methodLines (signature : String) (body : List String) : List String :=
  if body.isEmpty then ["  " ++ signature ++ " \x7b\x7d"]
  else ["  " ++ signature ++ " \x7b"] ++ body ++ ["  \x7d"]

def tickBody : Option (Nat × List String) → List String
  | none => []
  | some (ms, body) =>
    (if ms = Display.animationTickMs then [] else
      ["    this.elapsed += ANIMATION_TICK_MS;",
       "    if (this.elapsed < " ++ toString ms ++ ") return;",
       "    this.elapsed = 0;"]) ++ body

def classLines (b : Behavior) (comments : Bool) (parts : ClassParts) : List String :=
  (if comments then ["// " ++ parts.description ++ ": " ++ Text.commentText b.widget.id] else []) ++
  ["class " ++ b.typeName ++ " \x7b",
   "  constructor() \x7b"] ++
  (allFields b parts).map (fun f => "    this." ++ f.name ++ " = " ++ f.initial ++ ";") ++
  parts.init ++
  ["  \x7d",
   ""] ++
  methodLines "render()" parts.render ++ [""] ++
  methodLines "update(value)" parts.update ++ [""] ++
  methodLines "tick()" (tickBody (parts.timer? b)) ++
  (if parts.methods.isEmpty then [] else "" :: parts.methods) ++
  ["\x7d"]

def textParts (p : TextProperties) : ClassParts where
  description := "Text"
  fields :=
    [⟨"content", text p.content⟩,
     ⟨"align", text (Named.name p.align)⟩,
     ⟨"wrap", Literal.flag p.wrap⟩,
     ⟨"bound", "null"⟩]
  init := []
  render :=
    ["    const text = this.bound === null ? this.content : `$\x7bthis.title\x7d: $\x7bthis.bound\x7d`;",
     "    return layoutText(text, this.width, this.align, this.wrap);"]
  update :=
    ["    this.bound = displayValue(value);"]
  tick := none
  methods := []

def lineChartParts (p : LineChartProperties) (labels : List String) (values : List Int) :
    ClassParts where
  description := "Line chart"
  fields :=
    [⟨"labels", literal (texts labels)⟩,
     ⟨"values", literal (integers values)⟩,
     ⟨"xLabel", text p.xLabel⟩,
     ⟨"yLabel", text p.yLabel⟩,
     ⟨"showGrid", Literal.flag p.showGrid⟩,
     ⟨"showLegend", Literal.flag p.showLegend⟩,
     ⟨"maxPoints", int p.maxPoints⟩,
     ⟨"live", "false"⟩]
  init := []
  render :=
    ["    const rows = Math.max(this.height - 1 - (this.showLegend ? 1 : 0), 1);",
     "    const values = this.values.slice(-this.maxPoints);",
     "    const lines = [];",
     "    if (values.length > 0) \x7b",
     "      const low = Math.min(...values);",
     "      const high = Math.max(...values);",
     "      const span = high - low || 1;",
     "      const blank = this.showGrid ? GRID : \" \";",
     "      const levels = values.map((v) => Math.trunc(((v - low) / span) * (rows - 1)));",
     "      for (let row = rows - 1; row >= 0; row--) \x7b",
     "        lines.push(levels.map((level) => (level === row ? POINT : blank)).join(\" \"));",
     "      \x7d",
     "    \x7d",
     "    if (this.labels.length > 0) \x7b",
     "      lines.push(`$\x7bthis.xLabel\x7d: $\x7bthis.labels[0]\x7d .. $\x7bthis.labels[this.labels.length - 1]\x7d`);",
     "    \x7d else \x7b",
     "      lines.push(`$\x7bthis.xLabel\x7d: last $\x7bvalues.length\x7d samples`);",
     "    \x7d",
     "    if (this.showLegend) lines.push(`$\x7bPOINT\x7d $\x7bSERIES_NAME\x7d ($\x7bthis.yLabel\x7d)`);",
     "    return lines.join(\"\\n\");"]
  update :=
    ["    if (Array.isArray(value)) \x7b",
     "      this.values = value.map((v) => toNumber(v)).slice(-this.maxPoints);",
     "    \x7d else \x7b",
     "      if (!this.live) this.values = [];",
     "      this.values = [...this.values, toNumber(value)].slice(-this.maxPoints);",
     "    \x7d",
     "    this.labels = [];",
     "    this.live = true;"]
  tick := none
  methods := []

def barChartMethods : List String :=
  ["  renderVertical(bars) \x7b",
   "    const values = bars.map(([, value]) => value);",
   "    const widths = bars.map(([label, value]) =>",
   "      Math.max(2, Array.from(String(label)).length, this.showValues ? plainNumber(value).length : 0)",
   "    );",
   "    const rows = Math.max(this.height - 2, 1);",
   "    const top = Math.max(...values, 0);",
   "    let band = BAR_BAND;",
   "    while (Math.ceil(top / band) > rows) band += BAR_BAND;",
   "    const lines = [];",
   "    for (let level = Math.ceil(top / band) * band; level > 0; level -= band) \x7b",
   "      lines.push(values.map((v, i) => (v >= level ? FILL : \" \").repeat(widths[i])).join(\" \").trimEnd());",
   "    \x7d",
   "    if (this.showLegend) lines.push(bars.map(([label], i) => String(label).padEnd(widths[i])).join(\" \"));",
   "    if (this.showValues) lines.push(values.map((v, i) => plainNumber(v).padEnd(widths[i])).join(\" \"));",
   "    return lines.join(\"\\n\");",
   "  \x7d",
   "",
   "  renderHorizontal(bars) \x7b",
   "    const labelWidth = Math.max(...bars.map(([label]) => Array.from(String(label)).length));",
   "    const top = Math.max(...bars.map(([, value]) => value), 1);",
   "    const room = Math.max(this.width - labelWidth - 8, 1);",
   "    return bars",
   "      .map(([label, value]) => \x7b",
   "        let line = `$\x7bString(label).padEnd(labelWidth)\x7d │$\x7bFILL.repeat(Math.trunc((Math.max(value, 0) / top) * room))\x7d`;",
   "        if (this.showValues) line += ` $\x7bplainNumber(value)\x7d`;",
   "        return line;",
   "      \x7d)",
   "      .join(\"\\n\");",
   "  \x7d"]

def barChartParts (p : BarChartProperties) (sample : List (String × Int)) : ClassParts where
  description := "Bar chart"
  fields :=
    [⟨"bars", literal (bars sample)⟩,
     ⟨"orientation", text (Named.name p.orientation)⟩,
     ⟨"showValues", Literal.flag p.showValues⟩,
     ⟨"showLegend", Literal.flag p.showLegend⟩,
     ⟨"maxBars", int p.maxBars⟩]
  init := []
  render :=
    ["    const bars = this.bars.slice(0, this.maxBars);",
     "    if (bars.length === 0) return \"No data\";",
     "    return this.orientation === \"horizontal\" ? this.renderHorizontal(bars) : this.renderVertical(bars);"]
  update :=
    ["    let bars;",
     "    if (Array.isArray(value)) \x7b",
     "      bars = value.map((item, index) =>",
     "        Array.isArray(item) && item.length >= 2",
     "          ? [String(item[0]), toNumber(item[1])]",
     "          : [String(index + 1), toNumber(item)]",
     "      );",
     "    \x7d else if (value !== null && typeof value === \"object\") \x7b",
     "      bars = Object.entries(value).map(([key, v]) => [key, toNumber(v)]);",
     "    \x7d else \x7b",
     "      return;",
     "    \x7d",
     "    this.bars = bars.slice(0, this.maxBars);"]
  tick := none
  methods := barChartMethods

def tableParts (p : TableProperties) (headers : List String) (rows : List (List String)) :
    ClassParts where
  description := "Table"
  fields :=
    [⟨"headers", literal (texts headers)⟩,
     ⟨"rows", literal (textRows rows)⟩,
     ⟨"showHeaders", Literal.flag p.showHeaders⟩,
     ⟨"sortable", Literal.flag p.sortable⟩,
     ⟨"filterable", Literal.flag p.filterable⟩,
     ⟨"maxRows", int p.maxRows⟩]
  init := []
  render :=
    ["    const lines = [];",
     "    if (this.showHeaders) \x7b",
     "      lines.push(formatRow(this.headers));",
     "      lines.push(\"─\".repeat(Math.min(this.headers.length * (COLUMN_WIDTH + 1), this.width)));",
     "    \x7d",
     "    for (const row of this.rows.slice(0, this.maxRows)) lines.push(formatRow(row));",
     "    return lines.join(\"\\n\");"]
  update :=
    ["    if (!Array.isArray(value) || value.length === 0) return;",
     "    let rows;",
     "    const first = value[0];",
     "    if (first !== null && typeof first === \"object\" && !Array.isArray(first)) \x7b",
     "      this.headers = Object.keys(first);",
     "      rows = value.map((item) => this.headers.map((h) => (item && h in item ? valueText(item[h]) : \"\")));",
     "    \x7d else \x7b",
     "      rows = value.map((row) => (Array.isArray(row) ? row.map(valueText) : [valueText(row)]));",
     "    \x7d",
     "    this.rows = rows.slice(0, this.maxRows);"]
  tick := none
  methods := []

def progressBarParts (p : ProgressBarProperties) (percent : Int) : ClassParts where
  description := "Progress bar"
  fields :=
    [⟨"percent", int percent⟩,
     ⟨"showPercentage", Literal.flag p.showPercentage⟩,
     ⟨"animated", Literal.flag p.animated⟩,
     ⟨"minValue", number p.min⟩,
     ⟨"maxValue", number p.max⟩]
  init := []
  render :=
    ["    const width = Math.max(this.width - (this.showPercentage ? 8 : 0), 1);",
     "    const filled = Math.min(Math.trunc((this.percent / 100) * width), width);",
     "    const bar = FILL.repeat(filled) + EMPTY.repeat(width - filled);",
     "    return this.showPercentage ? `$\x7bbar\x7d $\x7bthis.percent.toFixed(1)\x7d%` : bar;"]
  update :=
    ["    this.percent = normalize(toNumber(value), this.minValue, this.maxValue) * 100;"]
  tick := some
    ["    this.percent += PROGRESS_STEP;",
     "    if (this.percent > 100) this.percent = 0;"]
  methods := []

def sparklineParts (p : SparklineProperties) (values : List Int) : ClassParts where
  description := "Sparkline"
  fields :=
    [⟨"values", literal (integers values)⟩,
     ⟨"style", text (Named.name p.style)⟩,
     ⟨"showMinMax", Literal.flag p.showMinMax⟩,
     ⟨"showCurrent", Literal.flag p.showCurrent⟩]
  init := []
  render :=
    ["    const values = this.values.slice(-this.width);",
     "    const lines = [sparklineGlyphs(values, this.style)];",
     "    const parts = [];",
     "    if (values.length > 0 && this.showMinMax) \x7b",
     "      parts.push(`Min: $\x7bplainNumber(Math.min(...values))\x7d`);",
     "      parts.push(`Max: $\x7bplainNumber(Math.max(...values))\x7d`);",
     "    \x7d",
     "    if (values.length > 0 && this.showCurrent) \x7b",
     "      parts.push(`Current: $\x7bplainNumber(values[values.length - 1])\x7d`);",
     "    \x7d",
     "    if (parts.length > 0) lines.push(parts.join(\"  \"));",
     "    return lines.join(\"\\n\");"]
  update :=
    ["    if (Array.isArray(value)) \x7b",
     "      this.values = value.map((v) => toNumber(v)).slice(-SPARKLINE_HISTORY);",
     "    \x7d else \x7b",
     "      this.values = [...this.values, toNumber(value)].slice(-SPARKLINE_HISTORY);",
     "    \x7d"]
  tick := some
    ["    const last = this.values.length > 0 ? this.values[this.values.length - 1] : 0;",
     "    const step = randomInt(-SPARKLINE_STEP, SPARKLINE_STEP);",
     "    this.values = [...this.values, Math.max(0, last + step)].slice(-SPARKLINE_HISTORY);"]
  methods := []

def gaugeParts (p : GaugeProperties) (value : Number) : ClassParts where
  description := "Gauge"
  fields :=
    [⟨"value", number value⟩,
     ⟨"minValue", number p.min⟩,
     ⟨"maxValue", number p.max⟩,
     ⟨"showValue", Literal.flag p.showValue⟩,
     ⟨"units", text p.units⟩]
  init := []
  render :=
    ["    const ratio = normalize(this.value, this.minValue, this.maxValue);",
     "    const glyphs = Array.from(GAUGE_GLYPHS);",
     "    const filled = Math.trunc(ratio * ARC_CELLS);",
     "    const lines = [glyphs[Math.trunc(ratio * (glyphs.length - 1))], FILL.repeat(filled) + EMPTY.repeat(ARC_CELLS - filled)];",
     "    if (this.showValue) lines.push(`$\x7bplainNumber(this.value)\x7d$\x7bthis.units\x7d`);",
     "    return lines.join(\"\\n\");"]
  update :=
    ["    this.value = toNumber(value, this.value);"]
  tick := none
  methods := []

def logViewerMethods : List String :=
  ["  appendEntry(level, message) \x7b",
   "    let line = `$\x7blevel\x7d: $\x7bmessage\x7d`;",
   "    if (this.showTimestamp) line = `[$\x7bclockTime()\x7d] $\x7bline\x7d`;",
   "    this.entries.push(line);",
   "    if (this.entries.length > this.maxLines) this.entries = this.entries.slice(-this.maxLines);",
   "  \x7d"]

def seedLines (seed : List (String × String)) : List String :=
  ["    for (const [level, message] of " ++ literal (pairs seed) ++ ") \x7b",
   "      this.appendEntry(level, message);",
   "    \x7d"]

def logViewerParts (p : LogViewerProperties) (seed : List (String × String)) : ClassParts where
  description := "Log viewer"
  fields :=
    [⟨"maxLines", int p.maxLines⟩,
     ⟨"autoScroll", Literal.flag p.autoScroll⟩,
     ⟨"showTimestamp", Literal.flag p.showTimestamp⟩,
     ⟨"filter", text p.filter⟩,
     ⟨"sampleIndex", "0"⟩,
     ⟨"entries", "[]"⟩]
  init := if seed.isEmpty then [] else seedLines seed
  render :=
    ["    let lines = this.entries;",
     "    if (this.filter) \x7b",
     "      const needle = this.filter.toLowerCase();",
     "      lines = lines.filter((line) => line.toLowerCase().includes(needle));",
     "    \x7d",
     "    const visible = Math.max(this.height, 1);",
     "    lines = this.autoScroll ? lines.slice(-visible) : lines.slice(0, visible);",
     "    return lines.join(\"\\n\");"]
  update :=
    ["    const items = Array.isArray(value)",
     "      ? value.map(valueText)",
     "      : valueText(value).split(\"\\n\").filter((line) => line.trim() !== \"\");",
     "    for (const item of items) this.appendEntry(\"INFO\", item);"]
  tick := some
    ["    const [level, message] = LOG_SAMPLES[this.sampleIndex % LOG_SAMPLES.length];",
     "    this.sampleIndex += 1;",
     "    this.appendEntry(level, message);"]
  methods := logViewerMethods

def metricCardMethods : List String :=
  ["  record(value) \x7b",
   "    this.previous = this.value;",
   "    this.value = value;",
   "    this.history = [...this.history, value].slice(-METRIC_CARD_HISTORY);",
   "  \x7d"]

def metricCardParts (p : MetricCardProperties) (value : Number) (previous : Option Number)
    (history : List Number) : ClassParts where
  description := "Metric card"
  fields :=
    [⟨"label", text p.label⟩,
     ⟨"format", text (Named.name p.format)⟩,
     ⟨"showTrend", Literal.flag p.trend⟩,
     ⟨"showSparkline", Literal.flag p.sparkline⟩,
     ⟨"value", number value⟩,
     ⟨"previous", literal (Json.ofOptional Json.number previous)⟩,
     ⟨"history", literal (.list (history.map .number))⟩]
  init := []
  render :=
    ["    const lines = [this.label, formatMetricValue(this.value, this.format)];",
     "    if (this.showTrend) lines.push(trendText(this.value, this.previous));",
     "    if (this.showSparkline && this.history.length > 1) \x7b",
     "      lines.push(sparklineGlyphs(this.history.slice(-METRIC_CARD_SPARK_POINTS), \"bar\"));",
     "    \x7d",
     "    return lines.join(\"\\n\");"]
  update :=
    ["    this.record(toNumber(value, this.value));"]
  tick := some
    ["    const drift = (Math.random() * 2 - 1) * METRIC_CARD_DRIFT;",
     "    this.record(Math.round(this.value * (1 + drift) * 100) / 100);"]
  methods := metricCardMethods

/-- A static label for a widget of unknown type. -/
def placeholderParts (w : Widget) : ClassParts where
  description := "Placeholder"
  fields := [⟨"widgetType", text w.type⟩]
  init := []
  render := ["    return `$\x7bthis.title\x7d ($\x7bthis.widgetType\x7d)`;"]
  update := []
  tick := none
  methods := []

def partsOf (b : Behavior) : ClassParts :=
  match b.state with
  | .text p => textParts p
  | .lineChart p labels values => lineChartParts p labels values
  | .barChart p sample => barChartParts p sample
  | .table p headers rows => tableParts p headers rows
  | .progressBar p percent => progressBarParts p percent
  | .sparkline p values => sparklineParts p values
  | .gauge p value => gaugeParts p value
  | .logViewer p seed => logViewerParts p seed
  | .metricCard p value previous history => metricCardParts p value previous history
  | .unknown => placeholderParts b.widget

def widget (b : Behavior) (options : Options) : String :=
  Text.joinLines (classLines b options.includeComments (partsOf b))

end DashboardCompiler.Blessed
