import DashboardCompiler.Display.Glyphs
import DashboardCompiler.Display.Sample
import DashboardCompiler.Text.Lines
import DashboardCompiler.Text.Quoted

/-!
# Helpers of Textual programs

The constants and functions that all widget classes call.
-/

namespace DashboardCompiler.Textual

def glyph (c : Char) : String := Text.sourceQuoted (String.ofList [c])

def glyphs (cs : List Char) : String := Text.sourceQuoted (String.ofList cs)

def helperConstants : List String :=
  ["FILL = " ++ glyph Display.fillGlyph,
   "EMPTY = " ++ glyph Display.emptyGlyph,
   "LINE_RAMP = " ++ glyphs Display.lineRamp,
   "BAR_RAMP = " ++ glyphs Display.barRamp,
   "FLAT_LINE = " ++ glyph Display.flatLine,
   "GAUGE_GLYPHS = " ++ glyphs Display.gaugeGlyphs,
   "POINT = " ++ glyph Display.plotPoint,
   "GRID = " ++ glyph Display.plotGrid,
   "BAR_BAND = " ++ toString Display.barBand,
   "ARC_CELLS = " ++ toString Display.gaugeArcCells,
   "COLUMN_WIDTH = " ++ toString Display.Sample.tableColumnWidth]

def helperFunctions : List String :=
  ["",
   "",
   "def to_number(value, default=0.0):",
   "    \"\"\"Best-effort conversion of pushed data to a float.\"\"\"",
   "    if isinstance(value, (int, float)):",
   "        return float(value)",
   "    try:",
   "        return float(str(value).strip())",
   "    except ValueError:",
   "        return default",
   "",
   "",
   "def plain_number(value):",
   "    value = float(value)",
   "    if value == int(value):",
   "        return str(int(value))",
   "    return f\"\x7bvalue:.1f\x7d\"",
   "",
   "",
   "def format_bytes(value):",
   "    size = float(value)",
   "    for unit in (\"B\", \"KB\", \"MB\", \"GB\"):",
   "        if size < 1024:",
   "            return f\"\x7bsize:.1f\x7d \x7bunit\x7d\"",
   "        size /= 1024",
   "    return f\"\x7bsize:.1f\x7d TB\"",
   "",
   "",
   "def format_number(value):",
   "    if value >= 1_000_000:",
   "        return f\"\x7bvalue / 1_000_000:.1f\x7dM\"",
   "    if value >= 1_000:",
   "        return f\"\x7bvalue / 1_000:.1f\x7dK\"",
   "    return f\"\x7bvalue:.1f\x7d\"",
   "",
   "",
   "def format_metric_value(value, fmt=\"number\"):",
   "    if fmt == \"percentage\":",
   "        return f\"\x7bvalue:.1f\x7d%\"",
   "    if fmt == \"bytes\":",
   "        return format_bytes(value)",
   "    return format_number(value)",
   "",
   "",
   "def sparkline_glyphs(values, style=\"line\"):",
   "    \"\"\"Min/max-normalized glyph ramp.\"\"\"",
   "    if not values:",
   "        return \"\"",
   "    ramp = BAR_RAMP if style == \"bar\" else LINE_RAMP",
   "    low, high = min(values), max(values)",
   "    if high == low:",
   "        return ramp[len(ramp) // 2] * len(values) if style == \"bar\" else FLAT_LINE * len(values)",
   "    top = len(ramp) - 1",
   "    return \"\".join(ramp[int((v - low) / (high - low) * top)] for v in values)",
   "",
   "",
   "def normalize(value, low, high):",
   "    if high <= low:",
   "        return 0.0",
   "    return min(max((value - low) / (high - low), 0.0), 1.0)",
   "",
   "",
   "def trend_text(current, previous):",
   "    if previous is None or current == previous:",
   "        return \"" ++ Display.trendFlat ++ " No change\"",
   "    diff = current - previous",
   "    if diff > 0:",
   "        return f\"" ++ Display.trendUp ++ " +\x7bdiff:.1f\x7d\"",
   "    return f\"" ++ Display.trendDown ++ " \x7bdiff:.1f\x7d\"",
   "",
   "",
   "def layout_text(text, width, align=\"left\", wrap=True):",
   "    \"\"\"Wrap or clip each line to width, then align it.\"\"\"",
   "    lines = []",
   "    for line in str(text).split(\"\\n\"):",
   "        if wrap and len(line) > width:",
   "            chunks = [line[i : i + width] for i in range(0, len(line), width)]",
   "        else:",
   "            chunks = [line[:width]]",
   "        for chunk in chunks:",
   "            if align == \"center\":",
   "                chunk = chunk.center(width).rstrip()",
   "            elif align == \"right\":",
   "                chunk = chunk.rjust(width)",
   "            lines.append(chunk)",
   "    return \"\\n\".join(lines)"]

def helpers : String := Text.joinLines (helperConstants ++ helperFunctions)

end DashboardCompiler.Textual
