import DashboardCompiler.Design.Kinds
import DashboardCompiler.Display.Glyphs
import DashboardCompiler.Number

/-!
# Readouts

The text of a value on a metric card: one decimal place, on the ladder of byte units or with a suffix for
thousands and millions. The rung is chosen on the value itself, the rounding comes after.
-/

namespace DashboardCompiler.Display

/-- A size on the rungs that are left; the last rung takes every size. -/
def onLadder (last : String) : List String → Double → Except ArithmeticFault String
  | [], size => .ok (size.tenths ++ " " ++ last)
  | rung :: rest, size =>
    if size.lt (Double.ofInt 1024) then .ok (size.tenths ++ " " ++ rung)
    else do onLadder last rest (← size.div (Double.ofInt 1024))

def formatBytes (value : Number) : Except ArithmeticFault String := do
  onLadder "TB" ["B", "KB", "MB", "GB"] (← value.toDouble)

def formatNumber (value : Number) : Except ArithmeticFault String :=
  if (Number.int 1000000).le value then do
    return (← value.div (.int 1000000)).tenths ++ "M"
  else if (Number.int 1000).le value then do
    return (← value.div (.int 1000)).tenths ++ "K"
  else value.tenths

def formatPercentage (value : Number) : Except ArithmeticFault String := do
  return (← value.tenths) ++ "%"

def formatMetric (format : MetricFormat) (value : Number) : Except ArithmeticFault String :=
  match format with
  | .percentage => formatPercentage value
  | .bytes => formatBytes value
  | .number => formatNumber value

/-- The format with this name; a name that is not known stands for plain numbers. -/
def metricFormatNamed (name : String) : MetricFormat := (Named.ofName? name).getD .number

/-- How a value moved against the one before it. -/
def trendText (current : Number) (previous : Option Number) : Except ArithmeticFault String :=
  match previous with
  | none => .ok (trendFlat ++ " No change")
  | some earlier =>
    if current.eqValue earlier then .ok (trendFlat ++ " No change")
    else do
      let change ← current.sub earlier
      let text ← change.tenths
      if (Number.int 0).lt change then return trendUp ++ " +" ++ text
      else return trendDown ++ " " ++ text

end DashboardCompiler.Display
