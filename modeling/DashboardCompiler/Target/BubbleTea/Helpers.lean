import DashboardCompiler.Display.Glyphs
import DashboardCompiler.Display.Sample
import DashboardCompiler.Text.Lines
import DashboardCompiler.Text.Quoted

/-!
# Helpers of Bubble Tea programs

Glyph constants, the widget interface and the functions that all widgets share.
-/

namespace DashboardCompiler.BubbleTea

def glyph (c : Char) : String := Text.documentQuoted (String.ofList [c])

def glyphs (cs : List Char) : String := Text.documentQuoted (String.ofList cs)

def helperConstants : List String :=
  ["const (",
   "    fill             = " ++ glyph Display.fillGlyph,
   "    empty            = " ++ glyph Display.emptyGlyph,
   "    lineRamp         = " ++ glyphs Display.lineRamp,
   "    barRamp          = " ++ glyphs Display.barRamp,
   "    flatLine         = " ++ glyph Display.flatLine,
   "    gaugeGlyphs      = " ++ glyphs Display.gaugeGlyphs,
   "    point            = " ++ glyph Display.plotPoint,
   "    grid             = " ++ glyph Display.plotGrid,
   "    trendUp          = " ++ Text.documentQuoted Display.trendUp,
   "    trendDown        = " ++ Text.documentQuoted Display.trendDown,
   "    trendFlat        = " ++ Text.documentQuoted Display.trendFlat,
   "    barBand          = " ++ toString Display.barBand,
   "    arcCells         = " ++ toString Display.gaugeArcCells,
   "    columnWidth      = " ++ toString Display.Sample.tableColumnWidth,
   "    animationTickMs  = " ++ toString Display.animationTickMs,
   ")"]

def helperFunctions : List String :=
  ["",
   "// DashboardWidget is implemented by every generated widget.",
   "type DashboardWidget interface \x7b",
   "    Title() string",
   "    Render() string",
   "    Update(value interface\x7b\x7d)",
   "    Tick()",
   "\x7d",
   "",
   "type bar struct \x7b",
   "    label string",
   "    value float64",
   "\x7d",
   "",
   "func toNumber(value interface\x7b\x7d, fallback float64) float64 \x7b",
   "    switch v := value.(type) \x7b",
   "    case float64:",
   "        return v",
   "    case float32:",
   "        return float64(v)",
   "    case int:",
   "        return float64(v)",
   "    case int64:",
   "        return float64(v)",
   "    case uint64:",
   "        return float64(v)",
   "    case bool:",
   "        if v \x7b",
   "            return 1",
   "        \x7d",
   "        return 0",
   "    case string:",
   "        if f, err := strconv.ParseFloat(strings.TrimSpace(v), 64); err == nil \x7b",
   "            return f",
   "        \x7d",
   "    \x7d",
   "    return fallback",
   "\x7d",
   "",
   "func displayValue(value interface\x7b\x7d) string \x7b",
   "    switch v := value.(type) \x7b",
   "    case float64:",
   "        return formatNumber(v)",
   "    case int:",
   "        return formatNumber(float64(v))",
   "    case int64:",
   "        return formatNumber(float64(v))",
   "    \x7d",
   "    return fmt.Sprint(value)",
   "\x7d",
   "",
   "func plainNumber(v float64) string \x7b",
   "    if v == math.Trunc(v) \x7b",
   "        return strconv.FormatFloat(v, 'f', 0, 64)",
   "    \x7d",
   "    return fmt.Sprintf(\"%.1f\", v)",
   "\x7d",
   "",
   "func formatBytes(v float64) string \x7b",
   "    for _, unit := range []string\x7b\"B\", \"KB\", \"MB\", \"GB\"\x7d \x7b",
   "        if v < 1024 \x7b",
   "            return fmt.Sprintf(\"%.1f %s\", v, unit)",
   "        \x7d",
   "        v /= 1024",
   "    \x7d",
   "    return fmt.Sprintf(\"%.1f TB\", v)",
   "\x7d",
   "",
   "func formatNumber(v float64) string \x7b",
   "    if v >= 1000000 \x7b",
   "        return fmt.Sprintf(\"%.1fM\", v/1000000)",
   "    \x7d",
   "    if v >= 1000 \x7b",
   "        return fmt.Sprintf(\"%.1fK\", v/1000)",
   "    \x7d",
   "    return fmt.Sprintf(\"%.1f\", v)",
   "\x7d",
   "",
   "func formatMetricValue(v float64, format string) string \x7b",
   "    switch format \x7b",
   "    case \"percentage\":",
   "        return fmt.Sprintf(\"%.1f%%\", v)",
   "    case \"bytes\":",
   "        return formatBytes(v)",
   "    \x7d",
   "    return formatNumber(v)",
   "\x7d",
   "",
   "func minMax(values []float64) (float64, float64) \x7b",
   "    low, high := values[0], values[0]",
   "    for _, v := range values \x7b",
   "        low = math.Min(low, v)",
   "        high = math.Max(high, v)",
   "    \x7d",
   "    return low, high",
   "\x7d",
   "",
   "func lastN(values []float64, n int) []float64 \x7b",
   "    if len(values) > n \x7b",
   "        return values[len(values)-n:]",
   "    \x7d",
   "    return values",
   "\x7d",
   "",
   "// sparklineGlyphs maps values onto a min/max-normalized glyph ramp.",
   "func sparklineGlyphs(values []float64, style string) string \x7b",
   "    if len(values) == 0 \x7b",
   "        return \"\"",
   "    \x7d",
   "    ramp := []rune(lineRamp)",
   "    if style == \"bar\" \x7b",
   "        ramp = []rune(barRamp)",
   "    \x7d",
   "    low, high := minMax(values)",
   "    if high == low \x7b",
   "        if style == \"bar\" \x7b",
   "            return strings.Repeat(string(ramp[len(ramp)/2]), len(values))",
   "        \x7d",
   "        return strings.Repeat(flatLine, len(values))",
   "    \x7d",
   "    top := float64(len(ramp) - 1)",
   "    var b strings.Builder",
   "    for _, v := range values \x7b",
   "        b.WriteRune(ramp[int((v-low)/(high-low)*top)])",
   "    \x7d",
   "    return b.String()",
   "\x7d",
   "",
   "func normalize(v, low, high float64) float64 \x7b",
   "    if high <= low \x7b",
   "        return 0",
   "    \x7d",
   "    return math.Min(math.Max((v-low)/(high-low), 0), 1)",
   "\x7d",
   "",
   "func trendText(current, previous float64, hasPrevious bool) string \x7b",
   "    if !hasPrevious || current == previous \x7b",
   "        return trendFlat + \" No change\"",
   "    \x7d",
   "    diff := current - previous",
   "    if diff > 0 \x7b",
   "        return fmt.Sprintf(\"%s +%.1f\", trendUp, diff)",
   "    \x7d",
   "    return fmt.Sprintf(\"%s %.1f\", trendDown, diff)",
   "\x7d",
   "",
   "func truncate(s string, n int) string \x7b",
   "    runes := []rune(s)",
   "    if len(runes) > n \x7b",
   "        return string(runes[:n])",
   "    \x7d",
   "    return s",
   "\x7d",
   "",
   "func padRight(s string, width int) string \x7b",
   "    if n := utf8.RuneCountInString(s); n < width \x7b",
   "        return s + strings.Repeat(\" \", width-n)",
   "    \x7d",
   "    return s",
   "\x7d",
   "",
   "func formatRow(cells []string) string \x7b",
   "    parts := make([]string, len(cells))",
   "    for i, cell := range cells \x7b",
   "        parts[i] = padRight(truncate(cell, columnWidth), columnWidth)",
   "    \x7d",
   "    return strings.TrimRight(strings.Join(parts, \" \"), \" \")",
   "\x7d",
   "",
   "// layoutText wraps or clips each line to width, then aligns it.",
   "func layoutText(text string, width int, align string, wrap bool) string \x7b",
   "    var lines []string",
   "    for _, line := range strings.Split(text, \"\\n\") \x7b",
   "        runes := []rune(line)",
   "        var chunks []string",
   "        if wrap && len(runes) > width \x7b",
   "            for i := 0; i < len(runes); i += width \x7b",
   "                end := i + width",
   "                if end > len(runes) \x7b",
   "                    end = len(runes)",
   "                \x7d",
   "                chunks = append(chunks, string(runes[i:end]))",
   "            \x7d",
   "        \x7d else \x7b",
   "            chunks = []string\x7btruncate(line, width)\x7d",
   "        \x7d",
   "        for _, chunk := range chunks \x7b",
   "            pad := width - utf8.RuneCountInString(chunk)",
   "            switch align \x7b",
   "            case \"center\":",
   "                chunk = strings.TrimRight(strings.Repeat(\" \", pad/2)+chunk, \" \")",
   "            case \"right\":",
   "                chunk = strings.Repeat(\" \", pad) + chunk",
   "            \x7d",
   "            lines = append(lines, chunk)",
   "        \x7d",
   "    \x7d",
   "    return strings.Join(lines, \"\\n\")",
   "\x7d"]

def helpers : String := Text.tabIndent (Text.joinLines (helperConstants ++ helperFunctions))

end DashboardCompiler.BubbleTea
