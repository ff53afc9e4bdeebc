import DashboardCompiler.Target.Textual.Helpers
import DashboardCompiler.Target.Textual.Literal
import DashboardCompiler.Text.Comment

/-!
# Widgets of Textual programs

Each widget becomes a `Static` subclass with its state, a method that renders the text, one that takes
pushed values, and a timer method where the kind has one.
-/

namespace DashboardCompiler.Textual

/-- What one kind of widget puts into the common class. -/
structure ClassParts where
  description : String
  state : List String
  render : List String
  update : List String
  tick : Option (List String)
  methods : List String

def bodyLines (lines : List String) : List String :=
  lines.map fun line => if line.isEmpty then "" else "        " ++ line

def classLines (b : Behavior) (comments : Bool) (parts : ClassParts) : List String :=
  (if comments then
    ["# " ++ parts.description ++ ": " ++ Text.commentText b.widget.id] else []) ++
  ["class " ++ b.typeName ++ "(Static):",
   "    \"\"\"" ++ parts.description ++ " widget.\"\"\"",
   "",
   "    def __init__(self) -> None:",
   "        super().__init__(id=" ++ text b.identifier ++ ", markup=False)",
   "        self.widget_title = " ++ text b.widget.displayTitle,
   "        self.data_source = " ++ literal (Json.ofOptional .text b.widget.dataSource),
   "        self.inner_width = " ++ int b.widget.innerWidth,
   "        self.inner_height = " ++ int b.widget.innerHeight] ++
  bodyLines parts.state ++
  ["",
   "    def on_mount(self) -> None:",
   "        self.border_title = self.widget_title",
   "        self.refresh_view()"] ++
  (match parts.tick, b.tickMs with
    | some _, some ms => ["        self.set_interval(" ++ (Literal.seconds ms).text ++ ", self.tick)"]
    | _, _ => []) ++
  ["",
   "    def refresh_view(self) -> None:",
   "        self.update(self.render_text())",
   "",
   "    def render_text(self) -> str:"] ++
  bodyLines parts.render ++
  ["",
   "    def update_data(self, value) -> None:"] ++
  bodyLines parts.update ++
  ["        self.refresh_view()"] ++
  (match parts.tick with
    | some lines =>
      ["", "    def tick(self) -> None:"] ++ bodyLines lines ++ ["        self.refresh_view()"]
    | none => []) ++
  (if parts.methods.isEmpty then [] else "" :: parts.methods)

def textParts (p : TextProperties) : ClassParts where
  description := "Text"
  state :=
    ["self.text_content = " ++ text p.content,
     "self.text_align = " ++ text (Named.name p.align),
     "self.text_wrap = " ++ flag p.wrap,
     "self.bound_value = None"]
  render :=
    ["if self.bound_value is None:",
     "    text = self.text_content",
     "else:",
     "    text = f\"\x7bself.widget_title\x7d: \x7bself.bound_value\x7d\"",
     "return layout_text(text, self.inner_width, self.text_align, self.text_wrap)"]
  update :=
    ["if isinstance(value, (int, float)) and not isinstance(value, bool):",
     "    value = format_number(value)",
     "self.bound_value = str(value)"]
  tick := none
  methods := []

def lineChartParts (p : LineChartProperties) (labels : List String) (values : List Int) :
    ClassParts where
  description := "Line chart"
  state :=
    ["self.labels = " ++ literal (texts labels),
     "self.values = " ++ literal (ints values),
     "self.x_label = " ++ text p.xLabel,
     "self.y_label = " ++ text p.yLabel,
     "self.show_grid = " ++ flag p.showGrid,
     "self.show_legend = " ++ flag p.showLegend,
     "self.max_points = " ++ int p.maxPoints,
     "self.live = False"]
  render :=
    ["rows = max(self.inner_height - 1 - (1 if self.show_legend else 0), 1)",
     "values = self.values[-self.max_points :]",
     "lines = []",
     "if values:",
     "    low, high = min(values), max(values)",
     "    span = (high - low) or 1",
     "    levels = [int((v - low) / span * (rows - 1)) for v in values]",
     "    for row in range(rows - 1, -1, -1):",
     "        blank = GRID if self.show_grid else \" \"",
     "        lines.append(\" \".join(POINT if level == row else blank for level in levels))",
     "if self.labels:",
     "    lines.append(f\"\x7bself.x_label\x7d: \x7bself.labels[0]\x7d .. \x7bself.labels[-1]\x7d\")",
     "else:",
     "    lines.append(f\"\x7bself.x_label\x7d: last \x7blen(values)\x7d samples\")",
     "if self.show_legend:",
     "    lines.append(f\"\x7bPOINT\x7d " ++ Display.Sample.chartSeries ++ " (\x7bself.y_label\x7d)\")",
     "return \"\\n\".join(lines)"]
  update :=
    ["if isinstance(value, list):",
     "    self.values = [to_number(v) for v in value][-self.max_points :]",
     "else:",
     "    if not self.live:",
     "        self.values = []",
     "    self.values = (self.values + [to_number(value)])[-self.max_points :]",
     "self.labels = []",
     "self.live = True"]
  tick := none
  methods := []

def barChartParts (p : BarChartProperties) (bars : List (String × Int)) : ClassParts where
  description := "Bar chart"
  state :=
    ["self.bars = " ++ literal (.list (bars.map fun (a, n) => .list [.text a, .ofInt n])),
     "self.orientation = " ++ text (Named.name p.orientation),
     "self.show_values = " ++ flag p.showValues,
     "self.show_legend = " ++ flag p.showLegend,
     "self.max_bars = " ++ int p.maxBars]
  render :=
    ["bars = self.bars[: self.max_bars]",
     "if not bars:",
     "    return \"No data\"",
     "if self.orientation == \"horizontal\":",
     "    return self.render_horizontal(bars)",
     "return self.render_vertical(bars)"]
  update :=
    ["if isinstance(value, dict):",
     "    bars = [[str(k), to_number(v)] for k, v in value.items()]",
     "elif isinstance(value, list):",
     "    bars = []",
     "    for index, item in enumerate(value):",
     "        if isinstance(item, (list, tuple)) and len(item) >= 2:",
     "            bars.append([str(item[0]), to_number(item[1])])",
     "        else:",
     "            bars.append([str(index + 1), to_number(item)])",
     "else:",
     "    return",
     "self.bars = bars[: self.max_bars]"]
  tick := none
  methods :=
    ["    def render_vertical(self, bars) -> str:",
     "        values = [value for _, value in bars]",
     "        widths = [",
     "            max(2, len(str(label)), len(plain_number(value)) if self.show_values else 0)",
     "            for label, value in bars",
     "        ]",
     "        rows = max(self.inner_height - 2, 1)",
     "        band = BAR_BAND",
     "        while math.ceil(max(max(values), 0) / band) > rows:",
     "            band += BAR_BAND",
     "        top = math.ceil(max(max(values), 0) / band) * band",
     "        lines = []",
     "        for level in range(top, 0, -band):",
     "            cells = [(FILL if v >= level else \" \") * w for v, w in zip(values, widths)]",
     "            lines.append(\" \".join(cells).rstrip())",
     "        if self.show_legend:",
     "            lines.append(\" \".join(str(label).ljust(w) for (label, _), w in zip(bars, widths)))",
     "        if self.show_values:",
     "            lines.append(\" \".join(plain_number(v).ljust(w) for v, w in zip(values, widths)))",
     "        return \"\\n\".join(lines)",
     "",
     "    def render_horizontal(self, bars) -> str:",
     "        label_width = max(len(str(label)) for label, _ in bars)",
     "        top = max(max(value for _, value in bars), 1)",
     "        room = max(self.inner_width - label_width - 8, 1)",
     "        lines = []",
     "        for label, value in bars:",
     "            line = f\"\x7bstr(label).ljust(label_width)\x7d │\x7bFILL * int(max(value, 0) / top * room)\x7d\"",
     "            if self.show_values:",
     "                line += f\" \x7bplain_number(value)\x7d\"",
     "            lines.append(line)",
     "        return \"\\n\".join(lines)"]

def tableParts (p : TableProperties) (headers : List String) (rows : List (List String)) :
    ClassParts where
  description := "Table"
  state :=
    ["self.headers = " ++ literal (texts headers),
     "self.rows = " ++ literal (.list (rows.map texts)),
     "self.show_headers = " ++ flag p.showHeaders,
     "self.sortable = " ++ flag p.sortable,
     "self.filterable = " ++ flag p.filterable,
     "self.max_rows = " ++ int p.maxRows]
  render :=
    ["def fmt(cells):",
     "    return \" \".join(str(c)[:COLUMN_WIDTH].ljust(COLUMN_WIDTH) for c in cells).rstrip()",
     "",
     "lines = []",
     "if self.show_headers:",
     "    lines.append(fmt(self.headers))",
     "    lines.append(\"─\" * min(len(self.headers) * (COLUMN_WIDTH + 1), self.inner_width))",
     "lines.extend(fmt(row) for row in self.rows[: self.max_rows])",
     "return \"\\n\".join(lines)"]
  update :=
    ["if not isinstance(value, list) or not value:",
     "    return",
     "if isinstance(value[0], dict):",
     "    self.headers = [str(key) for key in value[0]]",
     "    rows = [[str(item.get(h, \"\")) for h in self.headers] for item in value]",
     "else:",
     "    rows = [[str(c) for c in row] if isinstance(row, (list, tuple)) else [str(row)] for row in value]",
     "self.rows = rows[: self.max_rows]"]
  tick := none
  methods := []

def progressBarParts (p : ProgressBarProperties) (percent : Int) : ClassParts where
  description := "Progress bar"
  state :=
    ["self.percent = " ++ floatText (.int percent),
     "self.show_percentage = " ++ flag p.showPercentage,
     "self.animated = " ++ flag p.animated,
     "self.min_value = " ++ p.min.text,
     "self.max_value = " ++ p.max.text]
  render :=
    ["width = max(self.inner_width - (8 if self.show_percentage else 0), 1)",
     "filled = int(self.percent / 100 * width)",
     "bar = FILL * filled + EMPTY * (width - filled)",
     "if self.show_percentage:",
     "    return f\"\x7bbar\x7d \x7bself.percent:.1f\x7d%\"",
     "return bar"]
  update :=
    ["self.percent = normalize(to_number(value), self.min_value, self.max_value) * 100"]
  tick := some
    ["self.percent += " ++ toString Display.progressStep,
     "if self.percent > 100:",
     "    self.percent = 0.0"]
  methods := []

def sparklineParts (p : SparklineProperties) (values : List Int) : ClassParts where
  description := "Sparkline"
  state :=
    ["self.values = " ++ literal (ints values),
     "self.ramp_style = " ++ text (Named.name p.style),
     "self.show_min_max = " ++ flag p.showMinMax,
     "self.show_current = " ++ flag p.showCurrent,
     "self.history = " ++ toString Display.sparklineHistory]
  render :=
    ["values = self.values[-self.inner_width :]",
     "lines = [sparkline_glyphs(values, self.ramp_style)]",
     "parts = []",
     "if values and self.show_min_max:",
     "    parts.append(f\"Min: \x7bplain_number(min(values))\x7d\")",
     "    parts.append(f\"Max: \x7bplain_number(max(values))\x7d\")",
     "if values and self.show_current:",
     "    parts.append(f\"Current: \x7bplain_number(values[-1])\x7d\")",
     "if parts:",
     "    lines.append(\"  \".join(parts))",
     "return \"\\n\".join(lines)"]
  update :=
    ["if isinstance(value, list):",
     "    self.values = [to_number(v) for v in value][-self.history :]",
     "else:",
     "    self.values = (self.values + [to_number(value)])[-self.history :]"]
  tick := some
    ["last = self.values[-1] if self.values else 0",
     "step = random.randint(-" ++ toString Display.sparklineStep ++ ", " ++
       toString Display.sparklineStep ++ ")",
     "self.values = (self.values + [max(0, last + step)])[-self.history :]"]
  methods := []

def gaugeParts (p : GaugeProperties) (value : Number) : ClassParts where
  description := "Gauge"
  state :=
    ["self.value = " ++ floatText value,
     "self.min_value = " ++ p.min.text,
     "self.max_value = " ++ p.max.text,
     "self.show_value = " ++ flag p.showValue,
     "self.units = " ++ text p.units]
  render :=
    ["ratio = normalize(self.value, self.min_value, self.max_value)",
     "glyph = GAUGE_GLYPHS[int(ratio * (len(GAUGE_GLYPHS) - 1))]",
     "filled = int(ratio * ARC_CELLS)",
     "lines = [glyph, FILL * filled + EMPTY * (ARC_CELLS - filled)]",
     "if self.show_value:",
     "    lines.append(f\"\x7bplain_number(self.value)\x7d\x7bself.units\x7d\")",
     "return \"\\n\".join(lines)"]
  update :=
    ["self.value = to_number(value, self.value)"]
  tick := none
  methods := []

def logViewerParts (p : LogViewerProperties) (seed : List (String × String)) : ClassParts where
  description := "Log viewer"
  state :=
    ["self.max_lines = " ++ int p.maxLines,
     "self.auto_scroll = " ++ flag p.autoScroll,
     "self.show_timestamp = " ++ flag p.showTimestamp,
     "self.filter_text = " ++ text p.filter,
     "self.samples = " ++ literal (pairs Display.Sample.log),
     "self.sample_index = 0",
     "self.entries = []",
     "for level, message in " ++ literal (pairs seed) ++ ":",
     "    self.append_entry(level, message)"]
  render :=
    ["lines = self.entries",
     "if self.filter_text:",
     "    needle = self.filter_text.lower()",
     "    lines = [line for line in lines if needle in line.lower()]",
     "visible = max(self.inner_height, 1)",
     "lines = lines[-visible:] if self.auto_scroll else lines[:visible]",
     "return \"\\n\".join(lines)"]
  update :=
    ["if isinstance(value, list):",
     "    items = [str(item) for item in value]",
     "else:",
     "    items = [line for line in str(value).splitlines() if line.strip()]",
     "for item in items:",
     "    self.append_entry(\"INFO\", item)"]
  tick := some
    ["level, message = self.samples[self.sample_index % len(self.samples)]",
     "self.sample_index += 1",
     "self.append_entry(level, message)"]
  methods :=
    ["    def append_entry(self, level: str, message: str) -> None:",
     "        line = f\"\x7blevel\x7d: \x7bmessage\x7d\"",
     "        if self.show_timestamp:",
     "            line = f\"[\x7bdatetime.now():%H:%M:%S\x7d] \x7bline\x7d\"",
     "        self.entries.append(line)",
     "        if len(self.entries) > self.max_lines:",
     "            self.entries = self.entries[-self.max_lines :]"]

def metricCardParts (p : MetricCardProperties) (value : Number) (previous : Option Number)
    (history : List Number) : ClassParts where
  description := "Metric card"
  state :=
    ["self.label = " ++ text p.label,
     "self.fmt = " ++ text (Named.name p.format),
     "self.show_trend = " ++ flag p.trend,
     "self.show_sparkline = " ++ flag p.sparkline,
     "self.value = " ++ floatText value,
     "self.previous = " ++ literal (Json.ofOptional .number previous),
     "self.history = " ++ literal (.list (history.map .number))]
  render :=
    ["lines = [self.label, format_metric_value(self.value, self.fmt)]",
     "if self.show_trend:",
     "    lines.append(trend_text(self.value, self.previous))",
     "if self.show_sparkline and len(self.history) > 1:",
     "    lines.append(sparkline_glyphs(self.history[-" ++ toString Display.metricCardSparkPoints ++
       ":], \"bar\"))",
     "return \"\\n\".join(lines)"]
  update :=
    ["self.record(to_number(value, self.value))"]
  tick := some
    ["drift = random.uniform(-" ++ Display.metricCardDrift ++ ", " ++ Display.metricCardDrift ++ ")",
     "self.record(round(self.value * (1 + drift), 2))"]
  methods :=
    ["    def record(self, value: float) -> None:",
     "        self.previous = self.value",
     "        self.value = value",
     "        self.history = (self.history + [value])[-" ++ toString Display.metricCardHistory ++ ":]"]

/-- A static label for a widget of unknown type. -/
def placeholderParts (w : Widget) : ClassParts where
  description := "Placeholder"
  state := ["self.widget_type = " ++ text w.type]
  render := ["return f\"\x7bself.widget_title\x7d (\x7bself.widget_type\x7d)\""]
  update := ["pass"]
  tick := none
  methods := []

def partsOf (b : Behavior) : ClassParts :=
  match b.state with
  | .text p => textParts p
  | .lineChart p labels values => lineChartParts p labels values
  | .barChart p bars => barChartParts p bars
  | .table p headers rows => tableParts p headers rows
  | .progressBar p percent => progressBarParts p percent
  | .sparkline p values => sparklineParts p values
  | .gauge p value => gaugeParts p value
  | .logViewer p seed => logViewerParts p seed
  | .metricCard p value previous history => metricCardParts p value previous history
  | .unknown => placeholderParts b.widget

def widget (b : Behavior) (options : Options) : String :=
  Text.joinLines (classLines b options.includeComments (partsOf b))

end DashboardCompiler.Textual
