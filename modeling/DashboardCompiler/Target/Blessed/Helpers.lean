import DashboardCompiler.Display.Glyphs
import DashboardCompiler.Display.Sample
import DashboardCompiler.Target.Blessed.Literal

/-!
# Helpers of blessed programs

Glyph and timing constants and the functions that all widgets share.
-/

namespace DashboardCompiler.Blessed

def constant (name value : String) : String := "const " ++ name ++ " = " ++ value ++ ";"

def textConstant (name value : String) : String := constant name (text value)

def numberConstant (name : String) (value : Nat) : String := constant name (toString value)

def helperConstants : List String :=
  [textConstant "FILL" (String.ofList [Display.fillGlyph]),
   textConstant "EMPTY" (String.ofList [Display.emptyGlyph]),
   textConstant "LINE_RAMP" (String.ofList Display.lineRamp),
   textConstant "BAR_RAMP" (String.ofList Display.barRamp),
   textConstant "FLAT_LINE" (String.ofList [Display.flatLine]),
   textConstant "GAUGE_GLYPHS" (String.ofList Display.gaugeGlyphs),
   textConstant "POINT" (String.ofList [Display.plotPoint]),
   textConstant "GRID" (String.ofList [Display.plotGrid]),
   textConstant "TREND_UP" Display.trendUp,
   textConstant "TREND_DOWN" Display.trendDown,
   textConstant "TREND_FLAT" Display.trendFlat,
   numberConstant "BAR_BAND" Display.barBand,
   numberConstant "ARC_CELLS" Display.gaugeArcCells,
   numberConstant "COLUMN_WIDTH" Display.Sample.tableColumnWidth,
   numberConstant "ANIMATION_TICK_MS" Display.animationTickMs,
   numberConstant "PROGRESS_STEP" Display.progressStep,
   numberConstant "SPARKLINE_STEP" Display.sparklineStep,
   numberConstant "SPARKLINE_HISTORY" Display.sparklineHistory,
   numberConstant "METRIC_CARD_HISTORY" Display.metricCardHistory,
   numberConstant "METRIC_CARD_SPARK_POINTS" Display.metricCardSparkPoints,
   constant "METRIC_CARD_DRIFT" Display.metricCardDrift,
   textConstant "SERIES_NAME" Display.Sample.chartSeries,
   constant "LOG_SAMPLES" (literal (pairs Display.Sample.log))]

def helperFunctions : List String :=
  ["",
   "function toNumber(value, fallback = 0) \x7b",
   "  if (typeof value === \"number\") return value;",
   "  if (typeof value === \"boolean\") return value ? 1 : 0;",
   "  const text = String(value).trim();",
   "  const parsed = text === \"\" ? NaN : Number(text);",
   "  return Number.isNaN(parsed) ? fallback : parsed;",
   "\x7d",
   "",
   "function valueText(value) \x7b",
   "  return typeof value === \"string\" ? value : JSON.stringify(value);",
   "\x7d",
   "",
   "function displayValue(value) \x7b",
   "  return typeof value === \"number\" ? formatNumber(value) : valueText(value);",
   "\x7d",
   "",
   "function plainNumber(value) \x7b",
   "  return Number.isInteger(value) ? String(value) : value.toFixed(1);",
   "\x7d",
   "",
   "function formatBytes(value) \x7b",
   "  let size = value;",
   "  for (const unit of [\"B\", \"KB\", \"MB\", \"GB\"]) \x7b",
   "    if (size < 1024) return `$\x7bsize.toFixed(1)\x7d $\x7bunit\x7d`;",
   "    size /= 1024;",
   "  \x7d",
   "  return `$\x7bsize.toFixed(1)\x7d TB`;",
   "\x7d",
   "",
   "function formatNumber(value) \x7b",
   "  if (value >= 1000000) return `$\x7b(value / 1000000).toFixed(1)\x7dM`;",
   "  if (value >= 1000) return `$\x7b(value / 1000).toFixed(1)\x7dK`;",
   "  return value.toFixed(1);",
   "\x7d",
   "",
   "function formatMetricValue(value, format) \x7b",
   "  if (format === \"percentage\") return `$\x7bvalue.toFixed(1)\x7d%`;",
   "  if (format === \"bytes\") return formatBytes(value);",
   "  return formatNumber(value);",
   "\x7d",
   "",
   "// Min/max-normalized glyph ramp.",
   "function sparklineGlyphs(values, style) \x7b",
   "  if (values.length === 0) return \"\";",
   "  const ramp = Array.from(style === \"bar\" ? BAR_RAMP : LINE_RAMP);",
   "  const low = Math.min(...values);",
   "  const high = Math.max(...values);",
   "  if (high === low) \x7b",
   "    return (style === \"bar\" ? ramp[Math.floor(ramp.length / 2)] : FLAT_LINE).repeat(values.length);",
   "  \x7d",
   "  const top = ramp.length - 1;",
   "  return values.map((v) => ramp[Math.trunc(((v - low) / (high - low)) * top)]).join(\"\");",
   "\x7d",
   "",
   "function normalize(value, low, high) \x7b",
   "  if (high <= low) return 0;",
   "  return Math.min(Math.max((value - low) / (high - low), 0), 1);",
   "\x7d",
   "",
   "function trendText(current, previous) \x7b",
   "  if (previous === null || current === previous) return `$\x7bTREND_FLAT\x7d No change`;",
   "  const diff = current - previous;",
   "  if (diff > 0) return `$\x7bTREND_UP\x7d +$\x7bdiff.toFixed(1)\x7d`;",
   "  return `$\x7bTREND_DOWN\x7d $\x7bdiff.toFixed(1)\x7d`;",
   "\x7d",
   "",
   "function truncate(text, width) \x7b",
   "  return Array.from(text).slice(0, width).join(\"\");",
   "\x7d",
   "",
   "function formatRow(cells) \x7b",
   "  return cells",
   "    .map((cell) => truncate(String(cell), COLUMN_WIDTH).padEnd(COLUMN_WIDTH))",
   "    .join(\" \")",
   "    .trimEnd();",
   "\x7d",
   "",
   "function randomInt(low, high) \x7b",
   "  return Math.floor(Math.random() * (high - low + 1)) + low;",
   "\x7d",
   "",
   "function clockTime() \x7b",
   "  return new Date().toTimeString().slice(0, 8);",
   "\x7d",
   "",
   "// Wrap or clip each line to width, then align it.",
   "function layoutText(text, width, align, wrap) \x7b",
   "  const lines = [];",
   "  for (const line of String(text).split(\"\\n\")) \x7b",
   "    const chars = Array.from(line);",
   "    const chunks = [];",
   "    if (wrap && chars.length > width) \x7b",
   "      for (let i = 0; i < chars.length; i += width) chunks.push(chars.slice(i, i + width).join(\"\"));",
   "    \x7d else \x7b",
   "      chunks.push(truncate(line, width));",
   "    \x7d",
   "    for (const chunk of chunks) \x7b",
   "      const pad = width - Array.from(chunk).length;",
   "      if (align === \"center\") lines.push((\" \".repeat(Math.floor(pad / 2)) + chunk).trimEnd());",
   "      else if (align === \"right\") lines.push(\" \".repeat(pad) + chunk);",
   "      else lines.push(chunk);",
   "    \x7d",
   "  \x7d",
   "  return lines.join(\"\\n\");",
   "\x7d"]

def helpers : String := Text.joinLines (helperConstants ++ helperFunctions)

end DashboardCompiler.Blessed
