import DashboardCompiler.Display.Behavior
import DashboardCompiler.Target.Ratatui.Literal
import DashboardCompiler.Text.Comment

/-!
# Widgets of Ratatui programs

Each widget becomes a struct with a constructor, methods of its own, and the trait `DashboardWidget`. A
widget that ticks more slowly than the animation counts the time that has passed, and one that simulates
random data owns a generator; neither field exists where the widget never ticks.
-/

namespace DashboardCompiler.Ratatui

/-- A field of a struct: its name, its type and its value in the constructor. -/
structure Field where
  name : String
  type : String
  initial : String

/-- What one kind of widget puts into the common struct. An empty update takes no notice of its value. -/
structure StructParts where
  description : String
  fields : List Field
  init : List String
  render : List String
  update : List String
  tick : Option (List String)
  drawsRandom : Bool
  methods : List String

/-- The period of the widget's timer and what it does, if it ever ticks. -/
def StructParts.timer? (parts : StructParts) (b : Behavior) : Option (Nat × List String) := do
  let body ← parts.tick
  let ms ← b.tickMs
  return (ms, body)

def timerFields (parts : StructParts) (timer : Option (Nat × List String)) : List Field :=
  match timer with
  | none => []
  | some (ms, _) =>
    (if ms = Display.animationTickMs then [] else [⟨"elapsed", "u64", "0"⟩]) ++
    (if parts.drawsRandom then [⟨"rng", "Rng", "Rng::seeded()"⟩] else [])

def allFields (b : Behavior) (parts : StructParts) : List Field :=
  [⟨"title", "String", ownedText b.widget.displayTitle⟩,
   ⟨"width", "usize", int b.widget.innerWidth⟩,
   ⟨"height", "usize", int b.widget.innerHeight⟩] ++
  timerFields parts (parts.timer? b) ++ parts.fields

def constructorLines (fields : List Field) (init : List String) : List String :=
  let initial := fields.map fun f => "            " ++ f.name ++ ": " ++ f.initial ++ ","
  ["    pub fn new() -> Self \x7b"] ++
  (if init.isEmpty then ["        Self \x7b"] ++ initial ++ ["        \x7d"]
   else ["        let mut w = Self \x7b"] ++ initial ++ ["        \x7d;"] ++ init ++ ["        w"]) ++
  ["    \x7d"]

def updateLines (body : List String) : List String :=
  if body.isEmpty then ["    fn update(&mut self, _value: &Value) \x7b\x7d"]
  else ["    fn update(&mut self, value: &Value) \x7b"] ++ body ++ ["    \x7d"]

def tickLines : Option (Nat × List String) → List String
  | none => ["    fn tick(&mut self) \x7b\x7d"]
  | some (ms, body) =>
    ["    fn tick(&mut self) \x7b"] ++
    (if ms = Display.animationTickMs then [] else
      ["        self.elapsed += ANIMATION_TICK_MS;",
       "        if self.elapsed < " ++ toString ms ++ " \x7b",
       "            return;",
       "        \x7d",
       "        self.elapsed = 0;"]) ++
    body ++ ["    \x7d"]

def structLines (b : Behavior) (comments : Bool) (parts : StructParts) : List String :=
  let name := b.typeName
  let fields := allFields b parts
  (if comments then
    ["/// " ++ parts.description ++ " widget `" ++ Text.commentText b.widget.id ++ "`."] else []) ++
  ["pub struct " ++ name ++ " \x7b"] ++
  fields.map (fun f => "    " ++ f.name ++ ": " ++ f.type ++ ",") ++
  ["\x7d",
   "",
   "impl " ++ name ++ " \x7b"] ++
  constructorLines fields parts.init ++
  (if parts.methods.isEmpty then [] else "" :: parts.methods) ++
  ["\x7d",
   "",
   "impl DashboardWidget for " ++ name ++ " \x7b",
   "    fn title(&self) -> &str \x7b",
   "        &self.title",
   "    \x7d",
   "",
   "    fn render_text(&self) -> String \x7b"] ++ parts.render ++
  ["    \x7d",
   ""] ++
  updateLines parts.update ++ [""] ++ tickLines (parts.timer? b) ++ ["\x7d"]

def textParts (p : TextProperties) : StructParts where
  description := "Text"
  fields :=
    [⟨"content", "String", ownedText p.content⟩,
     ⟨"align", "String", ownedText (Named.name p.align)⟩,
     ⟨"wrap", "bool", Literal.flag p.wrap⟩,
     ⟨"bound", "Option<String>", "None"⟩]
  init := []
  render :=
    ["        let text = match &self.bound \x7b",
     "            Some(value) => format!(\"\x7b\x7d: \x7b\x7d\", self.title, value),",
     "            None => self.content.clone(),",
     "        \x7d;",
     "        layout_text(&text, self.width, &self.align, self.wrap)"]
  update :=
    ["        self.bound = Some(display_value(value));"]
  tick := none
  drawsRandom := false
  methods := []

def lineChartParts (p : LineChartProperties) (labels : List String) (values : List Int) :
    StructParts where
  description := "Line chart"
  fields :=
    [⟨"labels", "Vec<String>", strings labels⟩,
     ⟨"values", "Vec<f64>", floats (values.map .int)⟩,
     ⟨"x_label", "String", ownedText p.xLabel⟩,
     ⟨"y_label", "String", ownedText p.yLabel⟩,
     ⟨"show_grid", "bool", Literal.flag p.showGrid⟩,
     ⟨"show_legend", "bool", Literal.flag p.showLegend⟩,
     ⟨"max_points", "usize", int p.maxPoints⟩,
     ⟨"live", "bool", "false"⟩]
  init := []
  render :=
    ["        let legend_rows = if self.show_legend \x7b 1 \x7d else \x7b 0 \x7d;",
     "        let rows = (self.height as i64 - 1 - legend_rows).max(1);",
     "        let values = last_n(&self.values, self.max_points);",
     "        let mut lines: Vec<String> = Vec::new();",
     "        if !values.is_empty() \x7b",
     "            let (low, high) = min_max(&values);",
     "            let span = if high == low \x7b 1.0 \x7d else \x7b high - low \x7d;",
     "            let blank = if self.show_grid \x7b GRID \x7d else \x7b \" \" \x7d;",
     "            for row in (0..rows).rev() \x7b",
     "                let cells: Vec<&str> = values",
     "                    .iter()",
     "                    .map(|v| \x7b",
     "                        if ((v - low) / span * (rows - 1) as f64) as i64 == row \x7b",
     "                            POINT",
     "                        \x7d else \x7b",
     "                            blank",
     "                        \x7d",
     "                    \x7d)",
     "                    .collect();",
     "                lines.push(cells.join(\" \"));",
     "            \x7d",
     "        \x7d",
     "        match (self.labels.first(), self.labels.last()) \x7b",
     "            (Some(first), Some(last)) => lines.push(format!(\"\x7b\x7d: \x7b\x7d .. \x7b\x7d\", self.x_label, first, last)),",
     "            _ => lines.push(format!(\"\x7b\x7d: last \x7b\x7d samples\", self.x_label, values.len())),",
     "        \x7d",
     "        if self.show_legend \x7b",
     "            lines.push(format!(\"\x7b\x7d " ++ Display.Sample.chartSeries ++ " (\x7b\x7d)\", POINT, self.y_label));",
     "        \x7d",
     "        lines.join(\"\\n\")"]
  update :=
    ["        if let Value::Array(items) = value \x7b",
     "            let values: Vec<f64> = items.iter().map(|item| to_number(item, 0.0)).collect();",
     "            self.values = last_n(&values, self.max_points);",
     "        \x7d else \x7b",
     "            if !self.live \x7b",
     "                self.values.clear();",
     "            \x7d",
     "            push_capped(&mut self.values, to_number(value, 0.0), self.max_points);",
     "        \x7d",
     "        self.labels.clear();",
     "        self.live = true;"]
  tick := none
  drawsRandom := false
  methods := []

def barChartMethods : List String :=
  ["    fn render_vertical(&self, bars: &[(String, f64)]) -> String \x7b",
   "        let widths: Vec<usize> = bars",
   "            .iter()",
   "            .map(|(label, value)| \x7b",
   "                let mut width = label.chars().count().max(2);",
   "                if self.show_values \x7b",
   "                    width = width.max(plain_number(*value).len());",
   "                \x7d",
   "                width",
   "            \x7d)",
   "            .collect();",
   "        let top = bars.iter().fold(0.0_f64, |acc, (_, v)| acc.max(*v));",
   "        let rows = (self.height as i64 - 2).max(1);",
   "        let mut band = BAR_BAND;",
   "        while (top / band as f64).ceil() as i64 > rows \x7b",
   "            band += BAR_BAND;",
   "        \x7d",
   "        let mut lines = Vec::new();",
   "        let mut level = (top / band as f64).ceil() as i64 * band;",
   "        while level > 0 \x7b",
   "            let cells: Vec<String> = bars",
   "                .iter()",
   "                .zip(&widths)",
   "                .map(|((_, v), w)| (if *v >= level as f64 \x7b FILL \x7d else \x7b \" \" \x7d).repeat(*w))",
   "                .collect();",
   "            lines.push(cells.join(\" \").trim_end().to_string());",
   "            level -= band;",
   "        \x7d",
   "        if self.show_legend \x7b",
   "            let labels: Vec<String> = bars.iter().zip(&widths).map(|((label, _), w)| pad_right(label, *w)).collect();",
   "            lines.push(labels.join(\" \"));",
   "        \x7d",
   "        if self.show_values \x7b",
   "            let values: Vec<String> = bars",
   "                .iter()",
   "                .zip(&widths)",
   "                .map(|((_, v), w)| pad_right(&plain_number(*v), *w))",
   "                .collect();",
   "            lines.push(values.join(\" \"));",
   "        \x7d",
   "        lines.join(\"\\n\")",
   "    \x7d",
   "",
   "    fn render_horizontal(&self, bars: &[(String, f64)]) -> String \x7b",
   "        let label_width = bars.iter().map(|(label, _)| label.chars().count()).max().unwrap_or(0);",
   "        let top = bars.iter().fold(1.0_f64, |acc, (_, v)| acc.max(*v));",
   "        let room = (self.width as i64 - label_width as i64 - 8).max(1) as f64;",
   "        bars.iter()",
   "            .map(|(label, value)| \x7b",
   "                let cells = (value.max(0.0) / top * room) as usize;",
   "                let mut line = format!(\"\x7b\x7d │\x7b\x7d\", pad_right(label, label_width), FILL.repeat(cells));",
   "                if self.show_values \x7b",
   "                    line.push_str(&format!(\" \x7b\x7d\", plain_number(*value)));",
   "                \x7d",
   "                line",
   "            \x7d)",
   "            .collect::<Vec<_>>()",
   "            .join(\"\\n\")",
   "    \x7d"]

def barChartParts (p : BarChartProperties) (sample : List (String × Int)) : StructParts where
  description := "Bar chart"
  fields :=
    [⟨"bars", "Vec<(String, f64)>", bars sample⟩,
     ⟨"orientation", "String", ownedText (Named.name p.orientation)⟩,
     ⟨"show_values", "bool", Literal.flag p.showValues⟩,
     ⟨"show_legend", "bool", Literal.flag p.showLegend⟩,
     ⟨"max_bars", "usize", int p.maxBars⟩]
  init := []
  render :=
    ["        let bars: Vec<(String, f64)> = self.bars.iter().take(self.max_bars).cloned().collect();",
     "        if bars.is_empty() \x7b",
     "            return String::from(\"No data\");",
     "        \x7d",
     "        if self.orientation == \"horizontal\" \x7b",
     "            self.render_horizontal(&bars)",
     "        \x7d else \x7b",
     "            self.render_vertical(&bars)",
     "        \x7d"]
  update :=
    ["        let bars: Vec<(String, f64)> = match value \x7b",
     "            Value::Object(map) => map.iter().map(|(k, v)| (k.clone(), to_number(v, 0.0))).collect(),",
     "            Value::Array(items) => items",
     "                .iter()",
     "                .enumerate()",
     "                .map(|(i, item)| match item \x7b",
     "                    Value::Array(pair) if pair.len() >= 2 => (value_text(&pair[0]), to_number(&pair[1], 0.0)),",
     "                    other => ((i + 1).to_string(), to_number(other, 0.0)),",
     "                \x7d)",
     "                .collect(),",
     "            _ => return,",
     "        \x7d;",
     "        self.bars = bars.into_iter().take(self.max_bars).collect();"]
  tick := none
  drawsRandom := false
  methods := barChartMethods

def tableParts (p : TableProperties) (headers : List String) (rows : List (List String)) :
    StructParts where
  description := "Table"
  fields :=
    [⟨"headers", "Vec<String>", strings headers⟩,
     ⟨"rows", "Vec<Vec<String>>", stringRows rows⟩,
     ⟨"show_headers", "bool", Literal.flag p.showHeaders⟩,
     ⟨"sortable", "bool", Literal.flag p.sortable⟩,
     ⟨"filterable", "bool", Literal.flag p.filterable⟩,
     ⟨"max_rows", "usize", int p.maxRows⟩]
  init := []
  render :=
    ["        let mut lines = Vec::new();",
     "        if self.show_headers \x7b",
     "            lines.push(format_row(&self.headers));",
     "            lines.push(\"─\".repeat((self.headers.len() * (COLUMN_WIDTH + 1)).min(self.width)));",
     "        \x7d",
     "        lines.extend(self.rows.iter().take(self.max_rows).map(|row| format_row(row)));",
     "        lines.join(\"\\n\")"]
  update :=
    ["        let items = match value \x7b",
     "            Value::Array(items) if !items.is_empty() => items,",
     "            _ => return,",
     "        \x7d;",
     "        let rows: Vec<Vec<String>> = if let Value::Object(first) = &items[0] \x7b",
     "            self.headers = first.keys().cloned().collect();",
     "            items",
     "                .iter()",
     "                .map(|item| \x7b",
     "                    self.headers",
     "                        .iter()",
     "                        .map(|header| item.get(header).map(value_text).unwrap_or_default())",
     "                        .collect()",
     "                \x7d)",
     "                .collect()",
     "        \x7d else \x7b",
     "            items",
     "                .iter()",
     "                .map(|item| match item \x7b",
     "                    Value::Array(cells) => cells.iter().map(value_text).collect(),",
     "                    other => vec![value_text(other)],",
     "                \x7d)",
     "                .collect()",
     "        \x7d;",
     "        self.rows = rows.into_iter().take(self.max_rows).collect();"]
  tick := none
  drawsRandom := false
  methods := []

def progressBarParts (p : ProgressBarProperties) (percent : Int) : StructParts where
  description := "Progress bar"
  fields :=
    [⟨"percent", "f64", Literal.float (.int percent)⟩,
     ⟨"show_percentage", "bool", Literal.flag p.showPercentage⟩,
     ⟨"animated", "bool", Literal.flag p.animated⟩,
     ⟨"min_value", "f64", Literal.float p.min⟩,
     ⟨"max_value", "f64", Literal.float p.max⟩]
  init := []
  render :=
    ["        let width = if self.show_percentage \x7b self.width.saturating_sub(8) \x7d else \x7b self.width \x7d.max(1);",
     "        let filled = ((self.percent / 100.0 * width as f64) as usize).min(width);",
     "        let bar = format!(\"\x7b\x7d\x7b\x7d\", FILL.repeat(filled), EMPTY.repeat(width - filled));",
     "        if self.show_percentage \x7b",
     "            format!(\"\x7b\x7d \x7b:.1\x7d%\", bar, self.percent)",
     "        \x7d else \x7b",
     "            bar",
     "        \x7d"]
  update :=
    ["        self.percent = normalize(to_number(value, 0.0), self.min_value, self.max_value) * 100.0;"]
  tick := some
    ["        self.percent += " ++ Literal.float (.int Display.progressStep) ++ ";",
     "        if self.percent > 100.0 \x7b",
     "            self.percent = 0.0;",
     "        \x7d"]
  drawsRandom := false
  methods := []

def sparklineParts (p : SparklineProperties) (values : List Int) : StructParts where
  description := "Sparkline"
  fields :=
    [⟨"values", "Vec<f64>", floats (values.map .int)⟩,
     ⟨"style", "String", ownedText (Named.name p.style)⟩,
     ⟨"show_min_max", "bool", Literal.flag p.showMinMax⟩,
     ⟨"show_current", "bool", Literal.flag p.showCurrent⟩]
  init := []
  render :=
    ["        let values = last_n(&self.values, self.width);",
     "        let mut lines = vec![sparkline_glyphs(&values, &self.style)];",
     "        let mut parts = Vec::new();",
     "        if !values.is_empty() && self.show_min_max \x7b",
     "            let (low, high) = min_max(&values);",
     "            parts.push(format!(\"Min: \x7b\x7d\", plain_number(low)));",
     "            parts.push(format!(\"Max: \x7b\x7d\", plain_number(high)));",
     "        \x7d",
     "        if let Some(last) = values.last() \x7b",
     "            if self.show_current \x7b",
     "                parts.push(format!(\"Current: \x7b\x7d\", plain_number(*last)));",
     "            \x7d",
     "        \x7d",
     "        if !parts.is_empty() \x7b",
     "            lines.push(parts.join(\"  \"));",
     "        \x7d",
     "        lines.join(\"\\n\")"]
  update :=
    ["        if let Value::Array(items) = value \x7b",
     "            let values: Vec<f64> = items.iter().map(|item| to_number(item, 0.0)).collect();",
     "            self.values = last_n(&values, " ++ toString Display.sparklineHistory ++ ");",
     "        \x7d else \x7b",
     "            push_capped(&mut self.values, to_number(value, 0.0), " ++ toString Display.sparklineHistory ++ ");",
     "        \x7d"]
  tick := some
    ["        let last = self.values.last().copied().unwrap_or(0.0);",
     "        let step = self.rng.range(-" ++ toString Display.sparklineStep ++ ", " ++ toString Display.sparklineStep ++ ") as f64;",
     "        push_capped(&mut self.values, (last + step).max(0.0), " ++ toString Display.sparklineHistory ++ ");"]
  drawsRandom := true
  methods := []

def gaugeParts (p : GaugeProperties) (value : Number) : StructParts where
  description := "Gauge"
  fields :=
    [⟨"value", "f64", Literal.float value⟩,
     ⟨"min_value", "f64", Literal.float p.min⟩,
     ⟨"max_value", "f64", Literal.float p.max⟩,
     ⟨"show_value", "bool", Literal.flag p.showValue⟩,
     ⟨"units", "String", ownedText p.units⟩]
  init := []
  render :=
    ["        let ratio = normalize(self.value, self.min_value, self.max_value);",
     "        let glyphs: Vec<char> = GAUGE_GLYPHS.chars().collect();",
     "        let filled = (ratio * ARC_CELLS as f64) as usize;",
     "        let mut lines = vec![",
     "            glyphs[(ratio * (glyphs.len() - 1) as f64) as usize].to_string(),",
     "            format!(\"\x7b\x7d\x7b\x7d\", FILL.repeat(filled), EMPTY.repeat(ARC_CELLS - filled)),",
     "        ];",
     "        if self.show_value \x7b",
     "            lines.push(format!(\"\x7b\x7d\x7b\x7d\", plain_number(self.value), self.units));",
     "        \x7d",
     "        lines.join(\"\\n\")"]
  update :=
    ["        self.value = to_number(value, self.value);"]
  tick := none
  drawsRandom := false
  methods := []

def logViewerMethods : List String :=
  ["    fn append_entry(&mut self, level: &str, message: &str) \x7b",
   "        let mut line = format!(\"\x7b\x7d: \x7b\x7d\", level, message);",
   "        if self.show_timestamp \x7b",
   "            line = format!(\"[\x7b\x7d] \x7b\x7d\", clock_time(), line);",
   "        \x7d",
   "        self.entries.push(line);",
   "        if self.entries.len() > self.max_lines \x7b",
   "            let excess = self.entries.len() - self.max_lines;",
   "            self.entries.drain(..excess);",
   "        \x7d",
   "    \x7d"]

def seedLines (seed : List (String × String)) : List String :=
  ["        for (level, message) in " ++ pairs seed ++ " \x7b",
   "            w.append_entry(level, message);",
   "        \x7d"]

def logViewerParts (p : LogViewerProperties) (seed : List (String × String)) : StructParts where
  description := "Log viewer"
  fields :=
    [⟨"max_lines", "usize", int p.maxLines⟩,
     ⟨"auto_scroll", "bool", Literal.flag p.autoScroll⟩,
     ⟨"show_timestamp", "bool", Literal.flag p.showTimestamp⟩,
     ⟨"filter", "String", ownedText p.filter⟩,
     ⟨"sample_index", "usize", "0"⟩,
     ⟨"entries", "Vec<String>", "Vec::new()"⟩]
  init := if seed.isEmpty then [] else seedLines seed
  render :=
    ["        let needle = self.filter.to_lowercase();",
     "        let lines: Vec<&str> = self",
     "            .entries",
     "            .iter()",
     "            .filter(|line| needle.is_empty() || line.to_lowercase().contains(&needle))",
     "            .map(|line| line.as_str())",
     "            .collect();",
     "        let visible = self.height.max(1);",
     "        let shown = if lines.len() <= visible \x7b",
     "            &lines[..]",
     "        \x7d else if self.auto_scroll \x7b",
     "            &lines[lines.len() - visible..]",
     "        \x7d else \x7b",
     "            &lines[..visible]",
     "        \x7d;",
     "        shown.join(\"\\n\")"]
  update :=
    ["        match value \x7b",
     "            Value::Array(items) => \x7b",
     "                for item in items \x7b",
     "                    self.append_entry(\"INFO\", &value_text(item));",
     "                \x7d",
     "            \x7d",
     "            other => \x7b",
     "                let text = value_text(other);",
     "                for line in text.lines().filter(|line| !line.trim().is_empty()) \x7b",
     "                    self.append_entry(\"INFO\", line);",
     "                \x7d",
     "            \x7d",
     "        \x7d"]
  tick := some
    ["        let (level, message) = LOG_SAMPLES[self.sample_index % LOG_SAMPLES.len()];",
     "        self.sample_index += 1;",
     "        self.append_entry(level, message);"]
  drawsRandom := false
  methods := logViewerMethods

def metricCardMethods : List String :=
  ["    fn record(&mut self, v: f64) \x7b",
   "        self.previous = Some(self.value);",
   "        self.value = v;",
   "        push_capped(&mut self.history, v, " ++ toString Display.metricCardHistory ++ ");",
   "    \x7d"]

def optionalFloat : Option Number → String
  | none => "None"
  | some n => "Some(" ++ Literal.float n ++ ")"

def metricCardParts (p : MetricCardProperties) (value : Number) (previous : Option Number)
    (history : List Number) : StructParts where
  description := "Metric card"
  fields :=
    [⟨"label", "String", ownedText p.label⟩,
     ⟨"format", "String", ownedText (Named.name p.format)⟩,
     ⟨"show_trend", "bool", Literal.flag p.trend⟩,
     ⟨"show_sparkline", "bool", Literal.flag p.sparkline⟩,
     ⟨"value", "f64", Literal.float value⟩,
     ⟨"previous", "Option<f64>", optionalFloat previous⟩,
     ⟨"history", "Vec<f64>", floats history⟩]
  init := []
  render :=
    ["        let mut lines = vec![self.label.clone(), format_metric_value(self.value, &self.format)];",
     "        if self.show_trend \x7b",
     "            lines.push(trend_text(self.value, self.previous));",
     "        \x7d",
     "        if self.show_sparkline && self.history.len() > 1 \x7b",
     "            lines.push(sparkline_glyphs(&last_n(&self.history, " ++ toString Display.metricCardSparkPoints ++ "), \"bar\"));",
     "        \x7d",
     "        lines.join(\"\\n\")"]
  update :=
    ["        let v = to_number(value, self.value);",
     "        self.record(v);"]
  tick := some
    ["        let drift = (self.rng.next_f64() * 2.0 - 1.0) * " ++ Display.metricCardDrift ++ ";",
     "        let v = (self.value * (1.0 + drift) * 100.0).round() / 100.0;",
     "        self.record(v);"]
  drawsRandom := true
  methods := metricCardMethods

/-- A static label for a widget of unknown type. -/
def placeholderParts (w : Widget) : StructParts where
  description := "Placeholder"
  fields := [⟨"widget_type", "String", ownedText w.type⟩]
  init := []
  render := ["        format!(\"\x7b\x7d (\x7b\x7d)\", self.title, self.widget_type)"]
  update := []
  tick := none
  drawsRandom := false
  methods := []

def partsOf (b : Behavior) : StructParts :=
  match b.state with
  | .text p => textParts p
  | .lineChart p labels values => lineChartParts p labels values
  | .barChart p sample => barChartParts p sample
  | .table p headers rows => tableParts p headers rows
  | .progressBar p percent => progressBarParts p percent
  | .sparkline p values => sparklineParts p values
  | .gauge p value => gaugeParts p value
  | .logViewer p seed => logViewerParts p seed
  | .metricCard p value previous history => metricCardParts p value previous history
  | .unknown => placeholderParts b.widget

def widget (b : Behavior) (options : Options) : String :=
  Text.joinLines (structLines b options.includeComments (partsOf b))

end DashboardCompiler.Ratatui
