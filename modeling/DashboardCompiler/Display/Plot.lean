import DashboardCompiler.Design.Kinds
import DashboardCompiler.Display.Glyphs
import DashboardCompiler.Number

/-!
# Plots in cells

Sparklines, gauges, the bands of bar charts and the progress animation: which glyph or cell a value gets.
Positions on a scale are truncated toward zero; one past the last step of a scale is a fault.
-/

namespace DashboardCompiler.Display

/-- The glyph at a position of a ramp. -/
def glyphAt (ramp : List Char) (position : Int) : Except ArithmeticFault Char :=
  match ramp[position.toNat]? with
  | some c => .ok c
  | none => .error .offScale

/-- The glyph of a value above the least one, on a ramp over the given span. -/
def rampGlyph (ramp : List Char) (least span value : Number) : Except ArithmeticFault Char := do
  let share ← (← value.sub least).div span
  let position ← (share.mul (Double.ofInt (ramp.length - 1 : Nat))).truncate
  glyphAt ramp position

/-- The style with this name; a name that is not known stands for lines. -/
def sparklineStyleNamed (name : String) : SparklineStyle := (Named.ofName? name).getD .line

def rampOf : SparklineStyle → List Char
  | .line => lineRamp
  | .bar => barRamp

/-- The glyph of values that are all equal: a line, or the middle of the bars. -/
def flatGlyph : SparklineStyle → Char
  | .line => flatLine
  | .bar => '▅'

/-- One glyph for each value, between the least and the greatest of them. -/
def sparkline (style : SparklineStyle) (values : List Number) : Except ArithmeticFault String :=
  match values with
  | [] => .ok ""
  | first :: rest => do
    let least := Number.least first rest
    let greatest := Number.greatest first rest
    if greatest.eqValue least then
      return String.ofList (List.replicate values.length (flatGlyph style))
    else
      let span ← greatest.sub least
      let glyphs ← values.mapM (rampGlyph (rampOf style) least span)
      return String.ofList glyphs

def doubleZero : Double := Double.ofInt 0

def doubleOne : Double := Double.ofInt 1

/-- The share of a range that lies below a value, between zero and one; an empty range has none. -/
def normalize (value low high : Number) : Except ArithmeticFault Double :=
  if high.le low then .ok doubleZero
  else do
    let share ← (← value.sub low).div (← high.sub low)
    let raised := if share.lt doubleZero then doubleZero else share
    return if doubleOne.lt raised then doubleOne else raised

/-- The filled cells of an arc, then its empty ones. -/
def arc (filled : Int) : String :=
  String.ofList (List.replicate filled.toNat fillGlyph ++
    List.replicate (gaugeArcCells - filled).toNat emptyGlyph)

/-- The round glyph and the arc of a gauge. -/
def gauge (value low high : Number) : Except ArithmeticFault (Char × String) := do
  let ratio ← normalize value low high
  let position ← (ratio.mul (Double.ofInt 4)).truncate
  let glyph ← glyphAt gaugeGlyphs position
  let filled ← (ratio.mul (Double.ofInt gaugeArcCells)).truncate
  return (glyph, arc filled)

/-- The multiples of the band height from the given number of bands down to one. -/
def bandsFrom : Nat → List Int
  | 0 => []
  | n + 1 => ((n + 1) * barBand : Nat) :: bandsFrom n

/-- The thresholds of a vertical bar chart, the top row first: the least multiple of the band height that
no value exceeds, and all smaller ones. -/
def barBands (values : List Number) : Except ArithmeticFault (List Int) :=
  match values with
  | [] => .ok []
  | first :: rest => do
    let top := Number.greatest (Number.greatest first rest) [.int 0]
    let bands ← (← top.div (.int barBand)).ceil
    return bandsFrom bands.toNat

/-- One tick of the progress animation: two more, and back to zero once past a hundred. -/
def advanceProgress (percent : Number) : Except ArithmeticFault Number := do
  let next ← percent.add (.int progressStep)
  return if (Number.int 100).lt next then .double doubleZero else next

end DashboardCompiler.Display
