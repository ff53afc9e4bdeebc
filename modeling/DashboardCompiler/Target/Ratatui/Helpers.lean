import DashboardCompiler.Display.Glyphs
import DashboardCompiler.Display.Sample
import DashboardCompiler.Target.Ratatui.Literal

/-!
# Helpers of Ratatui programs

Glyph constants, the widget trait, a generator of simulated data and the functions that all widgets share.
-/

namespace DashboardCompiler.Ratatui

def textConstant (name value : String) : String := "const " ++ name ++ ": &str = " ++ text value ++ ";"

def numberConstant (name type : String) (value : Nat) : String :=
  "const " ++ name ++ ": " ++ type ++ " = " ++ toString value ++ ";"

def helperConstants : List String :=
  [textConstant "FILL" (String.ofList [Display.fillGlyph]),
   textConstant "EMPTY" (String.ofList [Display.emptyGlyph]),
   textConstant "LINE_RAMP" (String.ofList Display.lineRamp),
   textConstant "BAR_RAMP" (String.ofList Display.barRamp),
   textConstant "FLAT_LINE" (String.ofList [Display.flatLine]),
   textConstant "GAUGE_GLYPHS" (String.ofList Display.gaugeGlyphs),
   textConstant "POINT" (String.ofList [Display.plotPoint]),
   textConstant "GRID" (String.ofList [Display.plotGrid]),
   textConstant "TREND_UP" Display.trendUp,
   textConstant "TREND_DOWN" Display.trendDown,
   textConstant "TREND_FLAT" Display.trendFlat,
   numberConstant "BAR_BAND" "i64" Display.barBand,
   numberConstant "ARC_CELLS" "usize" Display.gaugeArcCells,
   numberConstant "COLUMN_WIDTH" "usize" Display.Sample.tableColumnWidth,
   numberConstant "ANIMATION_TICK_MS" "u64" Display.animationTickMs,
   "const LOG_SAMPLES: &[(&str, &str)] = &" ++ pairs Display.Sample.log ++ ";"]

def helperFunctions : List String :=
  ["",
   "/// Implemented by every generated widget.",
   "pub trait DashboardWidget \x7b",
   "    fn title(&self) -> &str;",
   "    fn render_text(&self) -> String;",
   "    fn update(&mut self, value: &Value);",
   "    fn tick(&mut self);",
   "\x7d",
   "",
   "/// Small xorshift generator for simulated data.",
   "pub struct Rng(u64);",
   "",
   "impl Rng \x7b",
   "    pub fn seeded() -> Self \x7b",
   "        let nanos = SystemTime::now()",
   "            .duration_since(UNIX_EPOCH)",
   "            .map(|d| d.as_nanos() as u64)",
   "            .unwrap_or(0x2545_F491_4F6C_DD1D);",
   "        Rng(nanos | 1)",
   "    \x7d",
   "",
   "    pub fn next_f64(&mut self) -> f64 \x7b",
   "        self.0 ^= self.0 << 13;",
   "        self.0 ^= self.0 >> 7;",
   "        self.0 ^= self.0 << 17;",
   "        (self.0 >> 11) as f64 / (1u64 << 53) as f64",
   "    \x7d",
   "",
   "    /// Uniform integer in [low, high].",
   "    pub fn range(&mut self, low: i64, high: i64) -> i64 \x7b",
   "        low + (self.next_f64() * (high - low + 1) as f64) as i64",
   "    \x7d",
   "\x7d",
   "",
   "fn strings(items: &[&str]) -> Vec<String> \x7b",
   "    items.iter().map(|s| s.to_string()).collect()",
   "\x7d",
   "",
   "fn bars(items: &[(&str, f64)]) -> Vec<(String, f64)> \x7b",
   "    items.iter().map(|(label, value)| (label.to_string(), *value)).collect()",
   "\x7d",
   "",
   "fn to_number(value: &Value, fallback: f64) -> f64 \x7b",
   "    match value \x7b",
   "        Value::Number(n) => n.as_f64().unwrap_or(fallback),",
   "        Value::Bool(b) => \x7b",
   "            if *b \x7b",
   "                1.0",
   "            \x7d else \x7b",
   "                0.0",
   "            \x7d",
   "        \x7d",
   "        Value::String(s) => s.trim().parse().unwrap_or(fallback),",
   "        _ => fallback,",
   "    \x7d",
   "\x7d",
   "",
   "fn value_text(value: &Value) -> String \x7b",
   "    match value \x7b",
   "        Value::String(s) => s.clone(),",
   "        other => other.to_string(),",
   "    \x7d",
   "\x7d",
   "",
   "fn display_value(value: &Value) -> String \x7b",
   "    match value \x7b",
   "        Value::Number(n) => format_number(n.as_f64().unwrap_or(0.0)),",
   "        other => value_text(other),",
   "    \x7d",
   "\x7d",
   "",
   "fn plain_number(v: f64) -> String \x7b",
   "    if v == v.trunc() \x7b",
   "        format!(\"\x7b\x7d\", v as i64)",
   "    \x7d else \x7b",
   "        format!(\"\x7b:.1\x7d\", v)",
   "    \x7d",
   "\x7d",
   "",
   "fn format_bytes(v: f64) -> String \x7b",
   "    let mut size = v;",
   "    for unit in [\"B\", \"KB\", \"MB\", \"GB\"] \x7b",
   "        if size < 1024.0 \x7b",
   "            return format!(\"\x7b:.1\x7d \x7b\x7d\", size, unit);",
   "        \x7d",
   "        size /= 1024.0;",
   "    \x7d",
   "    format!(\"\x7b:.1\x7d TB\", size)",
   "\x7d",
   "",
   "fn format_number(v: f64) -> String \x7b",
   "    if v >= 1_000_000.0 \x7b",
   "        format!(\"\x7b:.1\x7dM\", v / 1_000_000.0)",
   "    \x7d else if v >= 1_000.0 \x7b",
   "        format!(\"\x7b:.1\x7dK\", v / 1_000.0)",
   "    \x7d else \x7b",
   "        format!(\"\x7b:.1\x7d\", v)",
   "    \x7d",
   "\x7d",
   "",
   "fn format_metric_value(v: f64, format: &str) -> String \x7b",
   "    match format \x7b",
   "        \"percentage\" => format!(\"\x7b:.1\x7d%\", v),",
   "        \"bytes\" => format_bytes(v),",
   "        _ => format_number(v),",
   "    \x7d",
   "\x7d",
   "",
   "fn min_max(values: &[f64]) -> (f64, f64) \x7b",
   "    values",
   "        .iter()",
   "        .fold((f64::INFINITY, f64::NEG_INFINITY), |(lo, hi), &v| (lo.min(v), hi.max(v)))",
   "\x7d",
   "",
   "fn last_n(values: &[f64], n: usize) -> Vec<f64> \x7b",
   "    values[values.len().saturating_sub(n)..].to_vec()",
   "\x7d",
   "",
   "fn push_capped(values: &mut Vec<f64>, v: f64, cap: usize) \x7b",
   "    values.push(v);",
   "    if values.len() > cap \x7b",
   "        let excess = values.len() - cap;",
   "        values.drain(..excess);",
   "    \x7d",
   "\x7d",
   "",
   "/// Map values onto a min/max-normalized glyph ramp.",
   "fn sparkline_glyphs(values: &[f64], style: &str) -> String \x7b",
   "    if values.is_empty() \x7b",
   "        return String::new();",
   "    \x7d",
   "    let ramp: Vec<char> = if style == \"bar\" \x7b BAR_RAMP \x7d else \x7b LINE_RAMP \x7d.chars().collect();",
   "    let (low, high) = min_max(values);",
   "    if high == low \x7b",
   "        if style == \"bar\" \x7b",
   "            return ramp[ramp.len() / 2].to_string().repeat(values.len());",
   "        \x7d",
   "        return FLAT_LINE.repeat(values.len());",
   "    \x7d",
   "    let top = (ramp.len() - 1) as f64;",
   "    values",
   "        .iter()",
   "        .map(|v| ramp[((v - low) / (high - low) * top) as usize])",
   "        .collect()",
   "\x7d",
   "",
   "fn normalize(v: f64, low: f64, high: f64) -> f64 \x7b",
   "    if high <= low \x7b",
   "        return 0.0;",
   "    \x7d",
   "    ((v - low) / (high - low)).clamp(0.0, 1.0)",
   "\x7d",
   "",
   "fn trend_text(current: f64, previous: Option<f64>) -> String \x7b",
   "    match previous \x7b",
   "        Some(prev) if current != prev => \x7b",
   "            let diff = current - prev;",
   "            if diff > 0.0 \x7b",
   "                format!(\"\x7b\x7d +\x7b:.1\x7d\", TREND_UP, diff)",
   "            \x7d else \x7b",
   "                format!(\"\x7b\x7d \x7b:.1\x7d\", TREND_DOWN, diff)",
   "            \x7d",
   "        \x7d",
   "        _ => format!(\"\x7b\x7d No change\", TREND_FLAT),",
   "    \x7d",
   "\x7d",
   "",
   "fn truncate(s: &str, n: usize) -> String \x7b",
   "    s.chars().take(n).collect()",
   "\x7d",
   "",
   "fn pad_right(s: &str, width: usize) -> String \x7b",
   "    format!(\"\x7b:<width$\x7d\", s, width = width)",
   "\x7d",
   "",
   "fn format_row(cells: &[String]) -> String \x7b",
   "    cells",
   "        .iter()",
   "        .map(|cell| pad_right(&truncate(cell, COLUMN_WIDTH), COLUMN_WIDTH))",
   "        .collect::<Vec<_>>()",
   "        .join(\" \")",
   "        .trim_end()",
   "        .to_string()",
   "\x7d",
   "",
   "/// Wall clock time of day (UTC) as HH:MM:SS.",
   "fn clock_time() -> String \x7b",
   "    let secs = SystemTime::now()",
   "        .duration_since(UNIX_EPOCH)",
   "        .map(|d| d.as_secs())",
   "        .unwrap_or(0)",
   "        % 86_400;",
   "    format!(\"\x7b:02\x7d:\x7b:02\x7d:\x7b:02\x7d\", secs / 3600, secs / 60 % 60, secs % 60)",
   "\x7d",
   "",
   "/// Wrap or clip each line to width, then align it.",
   "fn layout_text(text: &str, width: usize, align: &str, wrap: bool) -> String \x7b",
   "    let mut lines = Vec::new();",
   "    for line in text.split('\\n') \x7b",
   "        let chars: Vec<char> = line.chars().collect();",
   "        let chunks: Vec<String> = if wrap && chars.len() > width \x7b",
   "            chars.chunks(width).map(|c| c.iter().collect()).collect()",
   "        \x7d else \x7b",
   "            vec![truncate(line, width)]",
   "        \x7d;",
   "        for chunk in chunks \x7b",
   "            let pad = width.saturating_sub(chunk.chars().count());",
   "            lines.push(match align \x7b",
   "                \"center\" => format!(\"\x7b\x7d\x7b\x7d\", \" \".repeat(pad / 2), chunk).trim_end().to_string(),",
   "                \"right\" => format!(\"\x7b\x7d\x7b\x7d\", \" \".repeat(pad), chunk),",
   "                _ => chunk,",
   "            \x7d);",
   "        \x7d",
   "    \x7d",
   "    lines.join(\"\\n\")",
   "\x7d"]

def helpers : String := Text.joinLines (helperConstants ++ helperFunctions)

end DashboardCompiler.Ratatui
