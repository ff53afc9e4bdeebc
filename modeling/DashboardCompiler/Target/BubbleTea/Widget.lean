import DashboardCompiler.Display.Behavior
import DashboardCompiler.Target.BubbleTea.Literal
import DashboardCompiler.Text.Comment

/-!
# Widgets of Bubble Tea programs

Each widget becomes a struct with a constructor and the methods of `DashboardWidget`. A widget that ticks
more slowly than the animation counts the time that has passed. The templates are indented by spaces, and
every fragment is turned to tabs as a whole.
-/

namespace DashboardCompiler.BubbleTea

/-- A field of a struct: its name, its type, and its value in the constructor if it has one there. -/
structure Field where
  name : String
  type : String
  initial : Option String

/-- What one kind of widget puts into the common struct; `methods` is given the name of the type. -/
structure StructParts where
  description : String
  fields : List Field
  render : List String
  update : List String
  tick : Option (List String)
  init : List String
  methods : String → List String

/-- Two columns, the second one aligned. -/
def aligned (rows : List (String × String)) : List String :=
  let width := (rows.map (·.1.length)).foldl max 0
  rows.map fun (name, value) => name ++ " " ++ Text.spaces (width - name.length) ++ value

/-- The period of the widget's timer, if its kind has a timer method at all. -/
def StructParts.period? (parts : StructParts) (b : Behavior) : Option Nat :=
  if parts.tick.isSome then b.tickMs else none

/-- Whether the widget has to count animation ticks. -/
def countsTicks (period : Option Nat) : Bool :=
  match period with
  | some ms => ms ≠ Display.animationTickMs
  | none => false

def allFields (b : Behavior) (parts : StructParts) : List Field :=
  [⟨"title", "string", some (text b.widget.displayTitle)⟩,
   ⟨"width", "int", some (int b.widget.innerWidth)⟩,
   ⟨"height", "int", some (int b.widget.innerHeight)⟩] ++
  (if countsTicks (parts.period? b) then [⟨"elapsed", "int", none⟩] else []) ++ parts.fields

def tickLines (name : String) (parts : StructParts) (b : Behavior) : List String :=
  match parts.tick, b.tickMs with
  | some body, some ms =>
    ["func (w *" ++ name ++ ") Tick() \x7b"] ++
    (if ms = Display.animationTickMs then [] else
      ["    w.elapsed += animationTickMs",
       "    if w.elapsed < " ++ toString ms ++ " \x7b",
       "        return",
       "    \x7d",
       "    w.elapsed = 0"]) ++
    body ++ ["\x7d"]
  | _, _ => ["func (w *" ++ name ++ ") Tick() \x7b\x7d"]

def structLines (b : Behavior) (comments : Bool) (parts : StructParts) : List String :=
  let name := b.typeName
  let fields := allFields b parts
  let initial := fields.filterMap fun f => f.initial.map fun v => (f.name ++ ":", v)
  (if comments then
    ["// " ++ name ++ " is the " ++ parts.description ++ " widget " ++
      Text.commentText b.widget.id ++ "."] else []) ++
  ["type " ++ name ++ " struct \x7b"] ++
  (aligned (fields.map fun f => (f.name, f.type))).map ("    " ++ ·) ++
  ["\x7d",
   "",
   "func New" ++ name ++ "() *" ++ name ++ " \x7b",
   "    w := &" ++ name ++ "\x7b"] ++
  (aligned initial).map (fun line => "        " ++ line ++ ",") ++
  ["    \x7d"] ++ parts.init ++
  ["    return w",
   "\x7d",
   "",
   "func (w *" ++ name ++ ") Title() string \x7b return w.title \x7d",
   "",
   "func (w *" ++ name ++ ") Render() string \x7b"] ++ parts.render ++
  ["\x7d",
   "",
   "func (w *" ++ name ++ ") Update(value interface\x7b\x7d) \x7b"] ++ parts.update ++
  ["\x7d",
   ""] ++
  tickLines name parts b ++
  (let more := parts.methods name
   if more.isEmpty then [] else "" :: more)

def textParts (p : TextProperties) : StructParts where
  description := "text"
  fields :=
    [⟨"content", "string", some (text p.content)⟩,
     ⟨"align", "string", some (text (Named.name p.align))⟩,
     ⟨"wrap", "bool", some (Literal.flag p.wrap)⟩,
     ⟨"bound", "string", none⟩,
     ⟨"hasBound", "bool", none⟩]
  render :=
    ["    text := w.content",
     "    if w.hasBound \x7b",
     "        text = w.title + \": \" + w.bound",
     "    \x7d",
     "    return layoutText(text, w.width, w.align, w.wrap)"]
  update :=
    ["    w.bound = displayValue(value)",
     "    w.hasBound = true"]
  tick := none
  init := []
  methods _ := []

def lineChartParts (p : LineChartProperties) (labels : List String) (values : List Int) :
    StructParts where
  description := "line chart"
  fields :=
    [⟨"labels", "[]string", some (strings labels)⟩,
     ⟨"values", "[]float64", some (floats (values.map .int))⟩,
     ⟨"xLabel", "string", some (text p.xLabel)⟩,
     ⟨"yLabel", "string", some (text p.yLabel)⟩,
     ⟨"showGrid", "bool", some (Literal.flag p.showGrid)⟩,
     ⟨"showLegend", "bool", some (Literal.flag p.showLegend)⟩,
     ⟨"maxPoints", "int", some (int p.maxPoints)⟩,
     ⟨"live", "bool", none⟩]
  render :=
    ["    rows := w.height - 1",
     "    if w.showLegend \x7b",
     "        rows--",
     "    \x7d",
     "    if rows < 1 \x7b",
     "        rows = 1",
     "    \x7d",
     "    values := lastN(w.values, w.maxPoints)",
     "    var lines []string",
     "    if len(values) > 0 \x7b",
     "        low, high := minMax(values)",
     "        span := high - low",
     "        if span == 0 \x7b",
     "            span = 1",
     "        \x7d",
     "        blank := \" \"",
     "        if w.showGrid \x7b",
     "            blank = grid",
     "        \x7d",
     "        for row := rows - 1; row >= 0; row-- \x7b",
     "            cells := make([]string, len(values))",
     "            for i, v := range values \x7b",
     "                cells[i] = blank",
     "                if int((v-low)/span*float64(rows-1)) == row \x7b",
     "                    cells[i] = point",
     "                \x7d",
     "            \x7d",
     "            lines = append(lines, strings.Join(cells, \" \"))",
     "        \x7d",
     "    \x7d",
     "    if len(w.labels) > 0 \x7b",
     "        lines = append(lines, fmt.Sprintf(\"%s: %s .. %s\", w.xLabel, w.labels[0], w.labels[len(w.labels)-1]))",
     "    \x7d else \x7b",
     "        lines = append(lines, fmt.Sprintf(\"%s: last %d samples\", w.xLabel, len(values)))",
     "    \x7d",
     "    if w.showLegend \x7b",
     "        lines = append(lines, fmt.Sprintf(\"%s " ++ Display.Sample.chartSeries ++ " (%s)\", point, w.yLabel))",
     "    \x7d",
     "    return strings.Join(lines, \"\\n\")"]
  update :=
    ["    if list, ok := value.([]interface\x7b\x7d); ok \x7b",
     "        values := make([]float64, 0, len(list))",
     "        for _, item := range list \x7b",
     "            values = append(values, toNumber(item, 0))",
     "        \x7d",
     "        w.values = lastN(values, w.maxPoints)",
     "    \x7d else \x7b",
     "        if !w.live \x7b",
     "            w.values = nil",
     "        \x7d",
     "        w.values = lastN(append(w.values, toNumber(value, 0)), w.maxPoints)",
     "    \x7d",
     "    w.labels = nil",
     "    w.live = true"]
  tick := none
  init := []
  methods _ := []

def barChartMethods (name : String) : List String :=
  ["func (w *" ++ name ++ ") renderVertical(bars []bar) string \x7b",
   "    widths := make([]int, len(bars))",
   "    top := 0.0",
   "    for i, b := range bars \x7b",
   "        width := 2",
   "        if n := utf8.RuneCountInString(b.label); n > width \x7b",
   "            width = n",
   "        \x7d",
   "        if w.showValues \x7b",
   "            if n := len(plainNumber(b.value)); n > width \x7b",
   "                width = n",
   "            \x7d",
   "        \x7d",
   "        widths[i] = width",
   "        top = math.Max(top, b.value)",
   "    \x7d",
   "    rows := w.height - 2",
   "    if rows < 1 \x7b",
   "        rows = 1",
   "    \x7d",
   "    band := barBand",
   "    for int(math.Ceil(top/float64(band))) > rows \x7b",
   "        band += barBand",
   "    \x7d",
   "    var lines []string",
   "    for level := int(math.Ceil(top/float64(band))) * band; level > 0; level -= band \x7b",
   "        cells := make([]string, len(bars))",
   "        for i, b := range bars \x7b",
   "            glyph := \" \"",
   "            if b.value >= float64(level) \x7b",
   "                glyph = fill",
   "            \x7d",
   "            cells[i] = strings.Repeat(glyph, widths[i])",
   "        \x7d",
   "        lines = append(lines, strings.TrimRight(strings.Join(cells, \" \"), \" \"))",
   "    \x7d",
   "    if w.showLegend \x7b",
   "        labels := make([]string, len(bars))",
   "        for i, b := range bars \x7b",
   "            labels[i] = padRight(b.label, widths[i])",
   "        \x7d",
   "        lines = append(lines, strings.Join(labels, \" \"))",
   "    \x7d",
   "    if w.showValues \x7b",
   "        values := make([]string, len(bars))",
   "        for i, b := range bars \x7b",
   "            values[i] = padRight(plainNumber(b.value), widths[i])",
   "        \x7d",
   "        lines = append(lines, strings.Join(values, \" \"))",
   "    \x7d",
   "    return strings.Join(lines, \"\\n\")",
   "\x7d",
   "",
   "func (w *" ++ name ++ ") renderHorizontal(bars []bar) string \x7b",
   "    labelWidth := 0",
   "    top := 1.0",
   "    for _, b := range bars \x7b",
   "        if n := utf8.RuneCountInString(b.label); n > labelWidth \x7b",
   "            labelWidth = n",
   "        \x7d",
   "        top = math.Max(top, b.value)",
   "    \x7d",
   "    room := w.width - labelWidth - 8",
   "    if room < 1 \x7b",
   "        room = 1",
   "    \x7d",
   "    var lines []string",
   "    for _, b := range bars \x7b",
   "        cells := int(math.Max(b.value, 0) / top * float64(room))",
   "        line := padRight(b.label, labelWidth) + \" │\" + strings.Repeat(fill, cells)",
   "        if w.showValues \x7b",
   "            line += \" \" + plainNumber(b.value)",
   "        \x7d",
   "        lines = append(lines, line)",
   "    \x7d",
   "    return strings.Join(lines, \"\\n\")",
   "\x7d"]

def barChartParts (p : BarChartProperties) (sample : List (String × Int)) : StructParts where
  description := "bar chart"
  fields :=
    [⟨"bars", "[]bar", some (bars sample)⟩,
     ⟨"orientation", "string", some (text (Named.name p.orientation))⟩,
     ⟨"showValues", "bool", some (Literal.flag p.showValues)⟩,
     ⟨"showLegend", "bool", some (Literal.flag p.showLegend)⟩,
     ⟨"maxBars", "int", some (int p.maxBars)⟩]
  render :=
    ["    bars := w.bars",
     "    if len(bars) > w.maxBars \x7b",
     "        bars = bars[:w.maxBars]",
     "    \x7d",
     "    if len(bars) == 0 \x7b",
     "        return \"No data\"",
     "    \x7d",
     "    if w.orientation == \"horizontal\" \x7b",
     "        return w.renderHorizontal(bars)",
     "    \x7d",
     "    return w.renderVertical(bars)"]
  update :=
    ["    var bars []bar",
     "    switch v := value.(type) \x7b",
     "    case map[string]interface\x7b\x7d:",
     "        keys := make([]string, 0, len(v))",
     "        for key := range v \x7b",
     "            keys = append(keys, key)",
     "        \x7d",
     "        sort.Strings(keys)",
     "        for _, key := range keys \x7b",
     "            bars = append(bars, bar\x7bkey, toNumber(v[key], 0)\x7d)",
     "        \x7d",
     "    case []interface\x7b\x7d:",
     "        for i, item := range v \x7b",
     "            if pair, ok := item.([]interface\x7b\x7d); ok && len(pair) >= 2 \x7b",
     "                bars = append(bars, bar\x7bfmt.Sprint(pair[0]), toNumber(pair[1], 0)\x7d)",
     "            \x7d else \x7b",
     "                bars = append(bars, bar\x7bstrconv.Itoa(i + 1), toNumber(item, 0)\x7d)",
     "            \x7d",
     "        \x7d",
     "    default:",
     "        return",
     "    \x7d",
     "    if len(bars) > w.maxBars \x7b",
     "        bars = bars[:w.maxBars]",
     "    \x7d",
     "    w.bars = bars"]
  tick := none
  init := []
  methods := barChartMethods

def tableParts (p : TableProperties) (headers : List String) (rows : List (List String)) :
    StructParts where
  description := "table"
  fields :=
    [⟨"headers", "[]string", some (strings headers)⟩,
     ⟨"rows", "[][]string", some (stringRows rows)⟩,
     ⟨"showHeaders", "bool", some (Literal.flag p.showHeaders)⟩,
     ⟨"sortable", "bool", some (Literal.flag p.sortable)⟩,
     ⟨"filterable", "bool", some (Literal.flag p.filterable)⟩,
     ⟨"maxRows", "int", some (int p.maxRows)⟩]
  render :=
    ["    var lines []string",
     "    if w.showHeaders \x7b",
     "        lines = append(lines, formatRow(w.headers))",
     "        rule := len(w.headers) * (columnWidth + 1)",
     "        if rule > w.width \x7b",
     "            rule = w.width",
     "        \x7d",
     "        lines = append(lines, strings.Repeat(\"─\", rule))",
     "    \x7d",
     "    rows := w.rows",
     "    if len(rows) > w.maxRows \x7b",
     "        rows = rows[:w.maxRows]",
     "    \x7d",
     "    for _, row := range rows \x7b",
     "        lines = append(lines, formatRow(row))",
     "    \x7d",
     "    return strings.Join(lines, \"\\n\")"]
  update :=
    ["    list, ok := value.([]interface\x7b\x7d)",
     "    if !ok || len(list) == 0 \x7b",
     "        return",
     "    \x7d",
     "    var rows [][]string",
     "    if first, ok := list[0].(map[string]interface\x7b\x7d); ok \x7b",
     "        headers := make([]string, 0, len(first))",
     "        for key := range first \x7b",
     "            headers = append(headers, key)",
     "        \x7d",
     "        sort.Strings(headers)",
     "        for _, item := range list \x7b",
     "            record, _ := item.(map[string]interface\x7b\x7d)",
     "            row := make([]string, len(headers))",
     "            for i, header := range headers \x7b",
     "                if cell, found := record[header]; found \x7b",
     "                    row[i] = fmt.Sprint(cell)",
     "                \x7d",
     "            \x7d",
     "            rows = append(rows, row)",
     "        \x7d",
     "        w.headers = headers",
     "    \x7d else \x7b",
     "        for _, item := range list \x7b",
     "            if cells, ok := item.([]interface\x7b\x7d); ok \x7b",
     "                row := make([]string, len(cells))",
     "                for i, cell := range cells \x7b",
     "                    row[i] = fmt.Sprint(cell)",
     "                \x7d",
     "                rows = append(rows, row)",
     "            \x7d else \x7b",
     "                rows = append(rows, []string\x7bfmt.Sprint(item)\x7d)",
     "            \x7d",
     "        \x7d",
     "    \x7d",
     "    if len(rows) > w.maxRows \x7b",
     "        rows = rows[:w.maxRows]",
     "    \x7d",
     "    w.rows = rows"]
  tick := none
  init := []
  methods _ := []

def progressBarParts (p : ProgressBarProperties) (percent : Int) : StructParts where
  description := "progress bar"
  fields :=
    [⟨"percent", "float64", some (Literal.float (.int percent))⟩,
     ⟨"showPercentage", "bool", some (Literal.flag p.showPercentage)⟩,
     ⟨"animated", "bool", some (Literal.flag p.animated)⟩,
     ⟨"minValue", "float64", some (Literal.float p.min)⟩,
     ⟨"maxValue", "float64", some (Literal.float p.max)⟩]
  render :=
    ["    width := w.width",
     "    if w.showPercentage \x7b",
     "        width -= 8",
     "    \x7d",
     "    if width < 1 \x7b",
     "        width = 1",
     "    \x7d",
     "    filled := int(w.percent / 100 * float64(width))",
     "    bar := strings.Repeat(fill, filled) + strings.Repeat(empty, width-filled)",
     "    if w.showPercentage \x7b",
     "        return fmt.Sprintf(\"%s %.1f%%\", bar, w.percent)",
     "    \x7d",
     "    return bar"]
  update :=
    ["    w.percent = normalize(toNumber(value, 0), w.minValue, w.maxValue) * 100"]
  tick := some
    ["    w.percent += " ++ toString Display.progressStep,
     "    if w.percent > 100 \x7b",
     "        w.percent = 0",
     "    \x7d"]
  init := []
  methods _ := []

def sparklineParts (p : SparklineProperties) (values : List Int) : StructParts where
  description := "sparkline"
  fields :=
    [⟨"values", "[]float64", some (floats (values.map .int))⟩,
     ⟨"style", "string", some (text (Named.name p.style))⟩,
     ⟨"showMinMax", "bool", some (Literal.flag p.showMinMax)⟩,
     ⟨"showCurrent", "bool", some (Literal.flag p.showCurrent)⟩]
  render :=
    ["    values := lastN(w.values, w.width)",
     "    lines := []string\x7bsparklineGlyphs(values, w.style)\x7d",
     "    var parts []string",
     "    if len(values) > 0 && w.showMinMax \x7b",
     "        low, high := minMax(values)",
     "        parts = append(parts, \"Min: \"+plainNumber(low), \"Max: \"+plainNumber(high))",
     "    \x7d",
     "    if len(values) > 0 && w.showCurrent \x7b",
     "        parts = append(parts, \"Current: \"+plainNumber(values[len(values)-1]))",
     "    \x7d",
     "    if len(parts) > 0 \x7b",
     "        lines = append(lines, strings.Join(parts, \"  \"))",
     "    \x7d",
     "    return strings.Join(lines, \"\\n\")"]
  update :=
    ["    if list, ok := value.([]interface\x7b\x7d); ok \x7b",
     "        values := make([]float64, 0, len(list))",
     "        for _, item := range list \x7b",
     "            values = append(values, toNumber(item, 0))",
     "        \x7d",
     "        w.values = lastN(values, " ++ toString Display.sparklineHistory ++ ")",
     "    \x7d else \x7b",
     "        w.values = lastN(append(w.values, toNumber(value, 0)), " ++ toString Display.sparklineHistory ++ ")",
     "    \x7d"]
  tick := some
    ["    last := 0.0",
     "    if len(w.values) > 0 \x7b",
     "        last = w.values[len(w.values)-1]",
     "    \x7d",
     "    step := float64(rand.Intn(" ++ toString (2 * Display.sparklineStep + 1) ++ ") - " ++ toString Display.sparklineStep ++ ")",
     "    w.values = lastN(append(w.values, math.Max(0, last+step)), " ++ toString Display.sparklineHistory ++ ")"]
  init := []
  methods _ := []

def gaugeParts (p : GaugeProperties) (value : Number) : StructParts where
  description := "gauge"
  fields :=
    [⟨"value", "float64", some (Literal.float value)⟩,
     ⟨"minValue", "float64", some (Literal.float p.min)⟩,
     ⟨"maxValue", "float64", some (Literal.float p.max)⟩,
     ⟨"showValue", "bool", some (Literal.flag p.showValue)⟩,
     ⟨"units", "string", some (text p.units)⟩]
  render :=
    ["    ratio := normalize(w.value, w.minValue, w.maxValue)",
     "    glyphs := []rune(gaugeGlyphs)",
     "    filled := int(ratio * arcCells)",
     "    lines := []string\x7b",
     "        string(glyphs[int(ratio*float64(len(glyphs)-1))]),",
     "        strings.Repeat(fill, filled) + strings.Repeat(empty, arcCells-filled),",
     "    \x7d",
     "    if w.showValue \x7b",
     "        lines = append(lines, plainNumber(w.value)+w.units)",
     "    \x7d",
     "    return strings.Join(lines, \"\\n\")"]
  update :=
    ["    w.value = toNumber(value, w.value)"]
  tick := none
  init := []
  methods _ := []

def logViewerMethods (name : String) : List String :=
  ["func (w *" ++ name ++ ") appendEntry(level, message string) \x7b",
   "    line := level + \": \" + message",
   "    if w.showTimestamp \x7b",
   "        line = \"[\" + time.Now().Format(\"15:04:05\") + \"] \" + line",
   "    \x7d",
   "    w.entries = append(w.entries, line)",
   "    if len(w.entries) > w.maxLines \x7b",
   "        w.entries = w.entries[len(w.entries)-w.maxLines:]",
   "    \x7d",
   "\x7d"]

def logViewerParts (p : LogViewerProperties) (seed : List (String × String)) : StructParts where
  description := "log viewer"
  fields :=
    [⟨"maxLines", "int", some (int p.maxLines)⟩,
     ⟨"autoScroll", "bool", some (Literal.flag p.autoScroll)⟩,
     ⟨"showTimestamp", "bool", some (Literal.flag p.showTimestamp)⟩,
     ⟨"filter", "string", some (text p.filter)⟩,
     ⟨"samples", "[][2]string", some (pairs Display.Sample.log)⟩,
     ⟨"sampleIndex", "int", none⟩,
     ⟨"entries", "[]string", none⟩]
  render :=
    ["    lines := w.entries",
     "    if w.filter != \"\" \x7b",
     "        needle := strings.ToLower(w.filter)",
     "        var matched []string",
     "        for _, line := range lines \x7b",
     "            if strings.Contains(strings.ToLower(line), needle) \x7b",
     "                matched = append(matched, line)",
     "            \x7d",
     "        \x7d",
     "        lines = matched",
     "    \x7d",
     "    visible := w.height",
     "    if len(lines) > visible \x7b",
     "        if w.autoScroll \x7b",
     "            lines = lines[len(lines)-visible:]",
     "        \x7d else \x7b",
     "            lines = lines[:visible]",
     "        \x7d",
     "    \x7d",
     "    return strings.Join(lines, \"\\n\")"]
  update :=
    ["    if list, ok := value.([]interface\x7b\x7d); ok \x7b",
     "        for _, item := range list \x7b",
     "            w.appendEntry(\"INFO\", fmt.Sprint(item))",
     "        \x7d",
     "        return",
     "    \x7d",
     "    for _, line := range strings.Split(fmt.Sprint(value), \"\\n\") \x7b",
     "        if strings.TrimSpace(line) != \"\" \x7b",
     "            w.appendEntry(\"INFO\", line)",
     "        \x7d",
     "    \x7d"]
  tick := some
    ["    sample := w.samples[w.sampleIndex%len(w.samples)]",
     "    w.sampleIndex++",
     "    w.appendEntry(sample[0], sample[1])"]
  init :=
    ["    for _, entry := range " ++ pairs seed ++ " \x7b",
     "        w.appendEntry(entry[0], entry[1])",
     "    \x7d"]
  methods := logViewerMethods

def metricCardMethods (name : String) : List String :=
  ["func (w *" ++ name ++ ") record(v float64) \x7b",
   "    w.previous = w.value",
   "    w.hasPrevious = true",
   "    w.value = v",
   "    w.history = lastN(append(w.history, v), " ++ toString Display.metricCardHistory ++ ")",
   "\x7d"]

def metricCardParts (p : MetricCardProperties) (value : Number) (previous : Option Number)
    (history : List Number) : StructParts where
  description := "metric card"
  fields :=
    [⟨"label", "string", some (text p.label)⟩,
     ⟨"format", "string", some (text (Named.name p.format))⟩,
     ⟨"showTrend", "bool", some (Literal.flag p.trend)⟩,
     ⟨"showSparkline", "bool", some (Literal.flag p.sparkline)⟩,
     ⟨"value", "float64", some (Literal.float value)⟩,
     ⟨"previous", "float64", previous.map Literal.float⟩,
     ⟨"hasPrevious", "bool", previous.map fun _ => "true"⟩,
     ⟨"history", "[]float64", some (floats history)⟩]
  render :=
    ["    lines := []string\x7bw.label, formatMetricValue(w.value, w.format)\x7d",
     "    if w.showTrend \x7b",
     "        lines = append(lines, trendText(w.value, w.previous, w.hasPrevious))",
     "    \x7d",
     "    if w.showSparkline && len(w.history) > 1 \x7b",
     "        lines = append(lines, sparklineGlyphs(lastN(w.history, " ++ toString Display.metricCardSparkPoints ++ "), \"bar\"))",
     "    \x7d",
     "    return strings.Join(lines, \"\\n\")"]
  update :=
    ["    w.record(toNumber(value, w.value))"]
  tick := some
    ["    drift := (rand.Float64()*2 - 1) * " ++ Display.metricCardDrift,
     "    w.record(math.Round(w.value*(1+drift)*100) / 100)"]
  init := []
  methods := metricCardMethods

/-- A static label for a widget of unknown type. -/
def placeholderParts (w : Widget) : StructParts where
  description := "placeholder"
  fields := [⟨"widgetType", "string", some (text w.type)⟩]
  render := ["    return w.title + \" (\" + w.widgetType + \")\""]
  update := [""]
  tick := none
  init := []
  methods _ := []

def partsOf (b : Behavior) : StructParts :=
  match b.state with
  | .text p => textParts p
  | .lineChart p labels values => lineChartParts p labels values
  | .barChart p sample => barChartParts p sample
  | .table p headers rows => tableParts p headers rows
  | .progressBar p percent => progressBarParts p percent
  | .sparkline p values => sparklineParts p values
  | .gauge p value => gaugeParts p value
  | .logViewer p seed => logViewerParts p seed
  | .metricCard p value previous history => metricCardParts p value previous history
  | .unknown => placeholderParts b.widget

def widget (b : Behavior) (options : Options) : String :=
  Text.tabIndent (Text.joinLines (structLines b options.includeComments (partsOf b)))

end DashboardCompiler.BubbleTea
